import Stockroom.Proofs.Invariant

/-!
# Questions and their answers

A session waits for an answer exactly while a question stands on the screen, and the line that follows settles it,
whatever it holds: on `y` or `Y` the inventory becomes what the question proposed, and on anything else it stays and a
message says so (`run_confirmation`).  That a yes changes something is seen from the question being current: what it
proposes is not what there is (`Question.Fulfilled.ne`).
-/

namespace Stockroom

open Text

/-! ### Lines that are answers -/

/-- A letter of ASCII that only it and its capital there have as their lower case. -/
private theorem lower_eq_iff {c capital : Char} {l : List Char} (hpos : 0 < c.toNat) (hc : c.toNat < 0x80)
    (hk : c ≠ 'k') (hcapital : capital.toNat < 0x80)
    (hcase : ∀ n < 0x80, (Char.ofNat n).toLower = c ↔ Char.ofNat n = c ∨ Char.ofNat n = capital) :
    lower l = [c] ↔ l = [c] ∨ l = [capital] := by
  have hletter {d : Char} (hd : d.toNat < 0x80) : lowerChar d = [c] ↔ d = c ∨ d = capital := by
    have h := hcase d.toNat hd
    rwa [Char.ofNat_toNat, ← List.singleton_inj, ← lowerChar_of_ascii hd] at h
  rw [lower_eq_singleton_iff]
  constructor
  · rintro ⟨d, rfl, hd⟩
    rw [List.singleton_inj, List.singleton_inj]
    exact (hletter (ascii_of_lowerChar_eq hpos hc hk hd)).mp hd
  · rintro (rfl | rfl)
    · exact ⟨c, rfl, (hletter hc).mpr (.inl rfl)⟩
    · exact ⟨capital, rfl, (hletter hcapital).mpr (.inr rfl)⟩

theorem Answer.read_eq_yes_iff {line : String} :
    Answer.read line = .yes ↔ trim line.toList = ['y'] ∨ trim line.toList = ['Y'] := by
  rw [← lower_eq_iff (by decide) (by decide) (by decide) (by decide) (by decide)]
  unfold Answer.read
  split <;> simp_all

theorem Answer.read_eq_no_iff {line : String} :
    Answer.read line = .no ↔ trim line.toList = ['n'] ∨ trim line.toList = ['N'] := by
  rw [← lower_eq_iff (by decide) (by decide) (by decide) (by decide) (by decide)]
  unfold Answer.read
  split <;> simp_all

/-! ### What appears and what is waited for -/

private theorem Output.ofListing_ne_prompt (l : Listing) (text : String) : ofListing l ≠ .prompt text := by
  unfold ofListing
  split <;> simp

private theorem Outcome.shown_of_question? {o : Outcome} {q : Question} (h : o.question? = some q) :
    o.shown = some (.prompt q.text) := by
  cases o with
  | done | listing l => cases h
  | asked q' =>
    obtain rfl : q' = q := Option.some.inj h
    rfl

private theorem Outcome.question?_of_shown {o : Outcome} {text : String} (h : o.shown = some (.prompt text)) :
    ∃ q, o.question? = some q ∧ text = q.text := by
  cases o with
  | done => cases h
  | listing l =>
    simp only [Outcome.shown] at h
    split at h
    · cases h
    · exact absurd (Option.some.inj h) (Output.ofListing_ne_prompt l text)
  | asked q =>
    have htext : q.text = text := Output.prompt.inj (Option.some.inj h)
    exact ⟨q, rfl, htext.symm⟩

namespace Session

variable {s t : Session} {line : String} {shown : Option Output} {q : Question}

/-- A session that waits has just asked. -/
theorem Fed.shown_of_pending (h : Fed s line shown t) (hq : t.pending = some q) :
    shown = some (.prompt q.text) := by
  cases h with
  | confirmed | declined | unrecognized | refused => cases hq
  | blank hs | unread hs => exact absurd (hs.symm.trans hq) (by simp)
  | executed => exact Outcome.shown_of_question? hq

/-- A session that has just asked waits for the answer. -/
theorem Fed.pending_of_shown {text : String} (h : Fed s line (some (.prompt text)) t) :
    ∃ q, t.pending = some q ∧ text = q.text := by
  generalize ho : some (Output.prompt text) = shown at h
  cases h with
  | confirmed | declined | unrecognized | blank | unread | refused => cases ho
  | executed => exact Outcome.question?_of_shown ho.symm

private theorem feed_of_pending (hq : s.pending = some q) (line : String) : s.feed line = s.answer q line := by
  unfold feed
  rw [hq]

/-- On yes the change that was proposed is made, silently. -/
private theorem answer_yes (ha : Answer.read line = .yes) : s.answer q line = (none, ⟨s.inventory.apply q, none⟩) := by
  simp only [answer, ha, Inventory.resolve]

/-- On anything else nothing changes, and a message says so. -/
private theorem answer_of_not_yes (ha : Answer.read line ≠ .yes) :
    s.answer q line = (some (.message (if Answer.read line = .no then q.declined
      else "Please enter y or n.  " ++ q.declined)), ⟨s.inventory, none⟩) := by
  cases hr : Answer.read line with
  | yes => exact absurd hr ha
  | no => simp only [answer, hr, Inventory.resolve, if_true]
  | unrecognized => simp only [answer, hr, Inventory.resolve, reduceCtorEq, if_false]

private theorem pending_answer (s : Session) (q : Question) (line : String) : (s.answer q line).2.pending = none := by
  by_cases ha : Answer.read line = .yes
  · rw [answer_yes ha]
  · rw [answer_of_not_yes ha]

/-- A session waits exactly if it has just asked, and the next line is the answer and nothing else: on `y` or `Y` the
inventory becomes what the question proposed, which is another one, and on any other line it stays. -/
theorem run_confirmation (lines : List String) (line : String) :
    let s := new.run lines
    let shown := (s.feed line).1
    let t := (s.feed line).2
    ((∀ q, t.pending = some q → shown = some (.prompt q.text)) ∧
        ∀ text, shown = some (.prompt text) → ∃ q, t.pending = some q ∧ text = q.text) ∧
      (s.isAwaiting = true → t.isAwaiting = false) ∧
      ∀ q, s.pending = some q →
        (t.inventory ≠ s.inventory ↔ trim line.toList = ['y'] ∨ trim line.toList = ['Y']) ∧
        (t.inventory ≠ s.inventory → t.inventory = s.inventory.apply q ∧ shown = none) ∧
        (t.inventory = s.inventory →
          shown = some (.message (if trim line.toList = ['n'] ∨ trim line.toList = ['N'] then q.declined
            else "Please enter y or n.  " ++ q.declined))) := by
  intro s shown t
  have hs : s.Sound := sound_run lines
  have hfed : Fed s line shown t := fed_feed s line
  refine ⟨⟨fun q hq => hfed.shown_of_pending hq, ?_⟩, ?_, ?_⟩
  · intro text htext
    rw [htext] at hfed
    exact hfed.pending_of_shown
  · intro hwaits
    obtain ⟨q, hq⟩ := Option.isSome_iff_exists.1 hwaits
    have hnone : t.pending = none := by rw [← pending_answer s q line, ← feed_of_pending hq]
    rw [isAwaiting, hnone]
    rfl
  · intro q hq
    have hfeed : (shown, t) = s.answer q line := feed_of_pending hq line
    rw [← Answer.read_eq_yes_iff]
    simp only [← Answer.read_eq_no_iff]
    by_cases ha : Answer.read line = .yes
    · rw [answer_yes ha, Prod.mk.injEq] at hfeed
      obtain ⟨hshown, ht⟩ := hfeed
      have hcur : q.Current s.inventory := hs.current q hq
      have hne : t.inventory ≠ s.inventory := by
        rw [ht]
        exact (Question.fulfilled_apply hs.consistent hcur).ne hcur
      refine ⟨iff_of_true hne ha, fun _ => ⟨by rw [ht], hshown⟩, fun heq => absurd heq hne⟩
    · rw [answer_of_not_yes ha, Prod.mk.injEq] at hfeed
      obtain ⟨hshown, ht⟩ := hfeed
      have heq : t.inventory = s.inventory := by rw [ht]
      exact ⟨iff_of_false (fun hne => hne heq) ha, fun hne => absurd heq hne, fun _ => hshown⟩

/-- A question about the units that still fit is answered by a capital letter between blanks, and by a command. -/
theorem run_confirmation_fillUp :
    let s := new.run ["ADD PRODUCT Widget W1", "ADD WAREHOUSE 1 10", "STOCK W1 1 4", "STOCK W1 1 15"]
    s.pending = some (.fillUp "W1" 1 4 10 15 6) ∧
      (s.feed "\u3000Y ").2.inventory ≠ s.inventory ∧ (s.feed "\u3000Y ").2.isAwaiting = false ∧
      (s.feed "STOCK W1 1 15").2.inventory = s.inventory ∧ (s.feed "STOCK W1 1 15").2.isAwaiting = false := by
  intro s
  have hq : s.pending = some (.fillUp "W1" 1 4 10 15 6) := by decide
  have hwaits : s.isAwaiting = true := by
    rw [isAwaiting, hq]
    rfl
  obtain ⟨-, hyes, hchange⟩ := run_confirmation _ "\u3000Y "
  obtain ⟨-, hcommand, hkeep⟩ := run_confirmation _ "STOCK W1 1 15"
  refine ⟨hq, ((hchange _ hq).1).mpr (.inr (by decide)), hyes hwaits, ?_, hcommand hwaits⟩
  exact not_not.mp fun hne => absurd (((hkeep _ hq).1).mp hne) (by decide)

end Session

end Stockroom
