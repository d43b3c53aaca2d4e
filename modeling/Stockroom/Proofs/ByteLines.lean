import Stockroom.Text.Line
import Stockroom.Text.Utf8

/-!
# Texts as bytes

Bytes that can be read as a text are the bytes of that text (`eq_utf8_of_utf8Decode`): no character has a second form.
The ends of line are single bytes that occur in no other character, so cutting the bytes of a text into lines gives
the bytes of its lines (`byteLines_utf8`).
-/

namespace Stockroom.Text

/-! ### Reading is exact -/

private theorem eq_continuation {b : UInt8} {n : Nat} (hlow : 0x80 ≤ b.toNat) (hn : n % 0x40 = b.toNat - 0x80) :
    b = continuation n := by
  rw [← UInt8.toNat_inj, continuation_toNat]
  omega

private theorem eq_byte {b : UInt8} {n : Nat} (hn : b.toNat = n) : b = UInt8.ofNat n := by
  rw [← hn, UInt8.ofNat_toNat]

private theorem toNat_ofNat {n : Nat} (h : n < 0xD800 ∨ (0xE000 ≤ n ∧ n < 0x110000)) : (Char.ofNat n).toNat = n := by
  have hvalid : n.isValidChar := by
    simp only [Nat.isValidChar]
    omega
  rw [Char.ofNat, dif_pos hvalid]
  rfl

/-- Inside a character the next byte is in range, and it completes the character or leaves it open. -/
private theorem utf8DecodeFrom_open {index : Nat} {o : OpenUtf8} {bytes : List UInt8} {text : List Char}
    (h : utf8DecodeFrom index (some o) bytes = .ok text) :
    ∃ b rest, bytes = b :: rest ∧ o.low ≤ b.toNat ∧ b.toNat ≤ o.high ∧
      if o.owed ≤ 1 then ∃ more, text = Char.ofNat (0x40 * o.bits + (b.toNat - 0x80)) :: more ∧
        utf8DecodeFrom (index + 1) none rest = .ok more
      else utf8DecodeFrom (index + 1)
        (some ⟨o.start, o.owed - 1, 0x80, 0xBF, 0x40 * o.bits + (b.toNat - 0x80)⟩) rest = .ok text := by
  cases bytes with
  | nil => cases h
  | cons b rest =>
    unfold utf8DecodeFrom at h
    split at h
    · rename_i hrange
      refine ⟨b, rest, rfl, hrange.1, hrange.2, ?_⟩
      simp only at h
      split at h
      · rename_i howed
        rw [if_pos howed]
        cases hr : utf8DecodeFrom (index + 1) none rest with
        | error flaw => simp [hr, Except.map] at h
        | ok more =>
          simp only [hr, Except.map, Except.ok.injEq] at h
          exact ⟨more, h.symm, rfl⟩
      · rename_i howed
        rwa [if_neg howed]
    · cases h

/-- What a lead byte says: how many bytes follow, the first bits, and the range that leaves out what has a shorter
form, the surrogates and what is too large. -/
private theorem openUtf8_spec {start b : Nat} {o : OpenUtf8} (h : openUtf8 start b = some o) :
    0x80 ≤ o.low ∧ o.high ≤ 0xBF ∧
      (o.owed = 1 ∧ b = 0xC0 + o.bits ∧ 2 ≤ o.bits ∧ o.bits < 0x20 ∨
        o.owed = 2 ∧ b = 0xE0 + o.bits ∧ o.bits < 0x10 ∧ (o.bits = 0 → 0xA0 ≤ o.low) ∧
          (o.bits = 0xD → o.high ≤ 0x9F) ∨
        o.owed = 3 ∧ b = 0xF0 + o.bits ∧ o.bits ≤ 4 ∧ (o.bits = 0 → 0x90 ≤ o.low) ∧
          (o.bits = 4 → o.high ≤ 0x8F)) := by
  obtain ⟨start', owed, low, high, bits⟩ := o
  unfold openUtf8 at h
  dsimp only
  repeat' split at h
  all_goals simp only [Option.some.injEq, OpenUtf8.mk.injEq, reduceCtorEq] at h
  all_goals omega

/-- The character that a list of bytes begins with, if bytes that can be read follow. -/
private theorem utf8DecodeFrom_char {index : Nat} {b : UInt8} {bytes : List UInt8} {text : List Char}
    (h : utf8DecodeFrom index none (b :: bytes) = .ok text) :
    ∃ c rest more index', b :: bytes = utf8Code (Char.toNat c) ++ rest ∧ text = c :: more ∧
      utf8DecodeFrom index' none rest = .ok more := by
  simp only [utf8DecodeFrom] at h
  split at h
  · rename_i hb
    cases hr : utf8DecodeFrom (index + 1) none bytes with
    | error flaw => simp [hr, Except.map] at h
    | ok more =>
      simp only [hr, Except.map, Except.ok.injEq] at h
      refine ⟨_, bytes, more, _, ?_, h.symm, hr⟩
      rw [toNat_ofNat (by omega), utf8Code, if_pos hb, UInt8.ofNat_toNat]
      rfl
  split at h
  · cases h
  rename_i o ho
  obtain ⟨hlow, hhigh, hlead⟩ := openUtf8_spec ho
  obtain ⟨b₁, rest, rfl, hlow₁, hhigh₁, h₁⟩ := utf8DecodeFrom_open h
  -- one, two or three bytes follow the lead byte
  rcases hlead with ⟨howed, hb, hbits⟩ | ⟨howed, hb, hbits, hsmall, hsurrogate⟩ | ⟨howed, hb, hbits, hsmall, hlarge⟩
  · rw [if_pos (by omega)] at h₁
    obtain ⟨more, rfl, hmore⟩ := h₁
    generalize hn : 0x40 * o.bits + (b₁.toNat - 0x80) = n
    refine ⟨Char.ofNat n, rest, more, _, ?_, rfl, hmore⟩
    rw [toNat_ofNat (by omega), utf8Code, if_neg (by omega), if_pos (by omega),
      eq_byte (b := b) (n := 0xC0 + n / 0x40) (by omega), eq_continuation (b := b₁) (n := n) (by omega) (by omega)]
    rfl
  · rw [if_neg (by omega)] at h₁
    obtain ⟨b₂, rest, rfl, hlow₂, hhigh₂, h₂⟩ := utf8DecodeFrom_open h₁
    dsimp only at hlow₂ hhigh₂ h₂
    rw [if_pos (by omega)] at h₂
    obtain ⟨more, rfl, hmore⟩ := h₂
    generalize hn : 0x40 * (0x40 * o.bits + (b₁.toNat - 0x80)) + (b₂.toNat - 0x80) = n
    refine ⟨Char.ofNat n, rest, more, _, ?_, rfl, hmore⟩
    rw [toNat_ofNat (by omega), utf8Code, if_neg (by omega), if_neg (by omega), if_pos (by omega),
      eq_byte (b := b) (n := 0xE0 + n / 0x1000) (by omega),
      eq_continuation (b := b₁) (n := n / 0x40) (by omega) (by omega),
      eq_continuation (b := b₂) (n := n) (by omega) (by omega)]
    rfl
  · rw [if_neg (by omega)] at h₁
    obtain ⟨b₂, rest, rfl, hlow₂, hhigh₂, h₂⟩ := utf8DecodeFrom_open h₁
    dsimp only at hlow₂ hhigh₂ h₂
    rw [if_neg (by omega)] at h₂
    obtain ⟨b₃, rest, rfl, hlow₃, hhigh₃, h₃⟩ := utf8DecodeFrom_open h₂
    dsimp only at hlow₃ hhigh₃ h₃
    rw [if_pos (by omega)] at h₃
    obtain ⟨more, rfl, hmore⟩ := h₃
    generalize hn : 0x40 * (0x40 * (0x40 * o.bits + (b₁.toNat - 0x80)) + (b₂.toNat - 0x80)) + (b₃.toNat - 0x80) = n
    refine ⟨Char.ofNat n, rest, more, _, ?_, rfl, hmore⟩
    rw [toNat_ofNat (by omega), utf8Code, if_neg (by omega), if_neg (by omega), if_neg (by omega),
      eq_byte (b := b) (n := 0xF0 + n / 0x40000) (by omega),
      eq_continuation (b := b₁) (n := n / 0x1000) (by omega) (by omega),
      eq_continuation (b := b₂) (n := n / 0x40) (by omega) (by omega),
      eq_continuation (b := b₃) (n := n) (by omega) (by omega)]
    rfl

theorem eq_utf8_of_utf8Decode {bytes : List UInt8} {text : List Char} (h : utf8Decode bytes = .ok text) :
    bytes = utf8 text := by
  suffices ∀ index, utf8DecodeFrom index none bytes = .ok text → bytes = utf8 text from this 0 h
  clear h
  -- each character read is one step, whatever the number of its bytes
  induction text generalizing bytes with
  | nil =>
    intro index h
    cases bytes with
    | nil => rfl
    | cons b bytes =>
      obtain ⟨c, rest, more, index', hbytes, htext, hmore⟩ := utf8DecodeFrom_char h
      cases htext
  | cons c text ih =>
    intro index h
    cases bytes with
    | nil => cases h
    | cons b bytes =>
      obtain ⟨c', rest, more, index', hbytes, htext, hmore⟩ := utf8DecodeFrom_char h
      cases htext
      rw [hbytes, ih index' hmore]
      rfl

/-! ### Lines of bytes -/

/-- A byte below `80` occurs only in the character that it is. -/
private theorem eq_of_mem_utf8Code {n : Nat} {b : UInt8} (hn : n < 0x110000) (hmem : b ∈ utf8Code n)
    (hb : b.toNat < 0x80) : n = b.toNat := by
  have hcontinuation : ∀ m, b ≠ continuation m := by
    rintro m rfl
    rw [continuation_toNat] at hb
    omega
  have hlead : ∀ m, 0x80 ≤ m → m < 0x100 → b ≠ UInt8.ofNat m := by
    rintro m hm hm' rfl
    rw [byte_toNat hm'] at hb
    omega
  unfold utf8Code at hmem
  split at hmem
  · rw [List.mem_singleton] at hmem
    rw [hmem, byte_toNat (by omega)]
  split at hmem
  · simp only [List.mem_cons, hcontinuation, List.not_mem_nil, or_false] at hmem
    exact absurd hmem (hlead _ (by omega) (by omega))
  split at hmem
  · simp only [List.mem_cons, hcontinuation, List.not_mem_nil, or_false] at hmem
    exact absurd hmem (hlead _ (by omega) (by omega))
  · simp only [List.mem_cons, hcontinuation, List.not_mem_nil, or_false] at hmem
    exact absurd hmem (hlead _ (by omega) (by omega))

private theorem utf8_cons (c : Char) (text : List Char) : utf8 (c :: text) = utf8Code c.toNat ++ utf8 text := rfl

private theorem utf8Code_ne_nil (n : Nat) : utf8Code n ≠ [] := by
  unfold utf8Code
  split
  · exact List.cons_ne_nil _ _
  split
  · exact List.cons_ne_nil _ _
  split <;> exact List.cons_ne_nil _ _

private theorem ne_of_mem_utf8Code {c e : Char} {b byte : UInt8} (hc : c ≠ e) (he : byte.toNat = e.toNat)
    (hbyte : byte.toNat < 0x80) (hmem : b ∈ utf8Code c.toNat) : b ≠ byte := by
  rintro rfl
  have hrange := toNat_cases c
  have hsame := eq_of_mem_utf8Code (by omega) hmem hbyte
  exact hc (Char.toNat_inj.mp (hsame.trans he))

/-- The bytes of a text begin with a line feed when the text does. -/
private theorem head?_utf8 (text : List Char) : (utf8 text).head? = some 10 ↔ text.head? = some '\n' := by
  cases text with
  | nil => simp [utf8]
  | cons c text =>
    by_cases hc : c = '\n'
    · subst hc
      exact iff_of_true rfl rfl
    · refine iff_of_false (fun h => ?_) (fun h => hc (Option.some.inj h))
      obtain ⟨b, bytes, hcode⟩ := List.exists_cons_of_ne_nil (utf8Code_ne_nil c.toNat)
      have hmem : b ∈ utf8Code c.toNat := by rw [hcode]; exact List.mem_cons_self
      rw [utf8_cons, hcode] at h
      exact ne_of_mem_utf8Code hc rfl (by decide) hmem (Option.some.inj h)

private theorem lines_append {α : Type} [DecidableEq α] {lf cr : α} {block : List α} (rest : List α)
    (hlf : ∀ a ∈ block, a ≠ lf) (hcr : ∀ a ∈ block, a ≠ cr) :
    lines lf cr (block ++ rest) = block.foldr onFirstLine (lines lf cr rest) := by
  induction block with
  | nil => rfl
  | cons a block ih =>
    rw [List.forall_mem_cons] at hlf hcr
    rw [List.cons_append, lines, if_neg hlf.1, if_neg (fun h => hcr.1 h.1), ih hlf.2 hcr.2, List.foldr_cons]

private theorem foldr_onFirstLine {α : Type} {block : List α} (hblock : block ≠ []) (ls : List (List α)) :
    block.foldr onFirstLine ls = (block ++ ls.headD []) :: ls.tail := by
  induction block with
  | nil => exact absurd rfl hblock
  | cons a block ih =>
    cases block with
    | nil => cases ls <;> rfl
    | cons b block =>
      rw [List.foldr_cons, ih (List.cons_ne_nil _ _)]
      rfl

/-- A character goes in front of the first line as its bytes do. -/
private theorem map_utf8_onFirstLine (c : Char) (ls : List (List Char)) :
    (onFirstLine c ls).map utf8 = (utf8Code c.toNat).foldr onFirstLine (ls.map utf8) := by
  rw [foldr_onFirstLine (utf8Code_ne_nil _)]
  cases ls with
  | nil => rfl
  | cons line ls => rfl

theorem byteLines_utf8 (text : List Char) : byteLines (utf8 text) = (textLines text).map utf8 := by
  unfold byteLines textLines
  induction text with
  | nil => rfl
  | cons c text ih =>
    rw [utf8_cons]
    by_cases hlf : c = '\n'
    · subst hlf
      change lines 10 13 (10 :: utf8 text) = _
      rw [lines, if_pos rfl, lines, if_pos rfl, ih]
      rfl
    by_cases hcr : c = '\r'
    · subst hcr
      change lines 10 13 (13 :: utf8 text) = _
      rw [lines, if_neg (show ¬((13 : UInt8) = 10) by decide)]
      by_cases hnext : text.head? = some '\n'
      · rw [if_pos ⟨rfl, (head?_utf8 text).mpr hnext⟩, ih, lines, if_neg hlf, if_pos ⟨rfl, hnext⟩]
      · rw [if_neg (fun h => hnext ((head?_utf8 text).mp h.2)), ih, lines, if_neg hlf, if_neg (fun h => hnext h.2),
          map_utf8_onFirstLine]
        rfl
    · rw [lines_append _ (fun b hb => ne_of_mem_utf8Code hlf rfl (by decide) hb)
        (fun b hb => ne_of_mem_utf8Code hcr rfl (by decide) hb), ih, lines, if_neg hlf, if_neg (fun h => hcr h.1),
        map_utf8_onFirstLine]

end Stockroom.Text
