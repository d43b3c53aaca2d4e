import Mathlib.Data.List.Induction
import Stockroom.History

/-!
# Batches of a history

A batch is cut off the front of the buffered lines (`History.Cut`), and handing it over comes to one of three things:
nothing is due, the batch goes without a word, or its failure is the first and is told (`History.HandedOver`).

A `Recorder` is a history with a memory that its batches are appended to.  Whatever the calls on it and whichever of the
appends succeed, each recorded line is in exactly one batch or still in the buffer, in order; the memory holds the
batches that succeeded; and one notice tells of the first that did not (`Recorder.calls_new_accounted`).
-/

namespace Stockroom

namespace History

/-- A batch has been cut off the front of what is buffered. -/
structure Cut (h : History) (batch : List String) (rest : History) : Prop where
  buffered_eq : h.buffered = batch ++ rest.buffered
  batchSize_eq : rest.batchSize = h.batchSize
  notified_eq : rest.notified = h.notified
  batch_ne : 0 < h.batchSize → batch ≠ []

section Taking

variable {h rest : History} {batch : List String}

theorem takeBatch?_of_le (hfull : h.batchSize ≤ h.buffered.length) :
    h.takeBatch? = some (h.buffered.take h.batchSize, { h with buffered := h.buffered.drop h.batchSize }) :=
  if_neg (Nat.not_lt.mpr hfull)

theorem takeBatch?_of_lt (hfew : h.buffered.length < h.batchSize) : h.takeBatch? = none :=
  if_pos hfew

theorem takeAll?_of_ne_nil (hsome : h.buffered ≠ []) : h.takeAll? = some (h.buffered, { h with buffered := [] }) :=
  if_neg (mt List.isEmpty_iff.mp hsome)

theorem takeAll?_of_eq_nil (hnone : h.buffered = []) : h.takeAll? = none :=
  if_pos (List.isEmpty_iff.mpr hnone)

private theorem cut_of_takeBatch? (htake : h.takeBatch? = some (batch, rest)) : h.Cut batch rest := by
  rcases Nat.lt_or_ge h.buffered.length h.batchSize with hfew | hfull
  · rw [takeBatch?_of_lt hfew] at htake
    cases htake
  · rw [takeBatch?_of_le hfull] at htake
    cases htake
    refine ⟨(List.take_append_drop _ _).symm, rfl, rfl, fun hpos hempty => ?_⟩
    have hzero := congrArg List.length hempty
    rw [List.length_take, List.length_nil] at hzero
    omega

private theorem cut_of_takeAll? (htake : h.takeAll? = some (batch, rest)) : h.Cut batch rest := by
  by_cases hbuffered : h.buffered = []
  · rw [takeAll?_of_eq_nil hbuffered] at htake
    cases htake
  · rw [takeAll?_of_ne_nil hbuffered] at htake
    cases htake
    exact ⟨(List.append_nil _).symm, rfl, rfl, fun _ => hbuffered⟩

end Taking

/-! ### Handing over -/

/-- What handing history over comes to. -/
inductive HandedOver (h : History) (succeeds : Bool) : Handover → Prop
  /-- Nothing is due. -/
  | idle : HandedOver h succeeds ⟨none, none, h⟩
  | silent {batch : List String} {rest : History} (hcut : h.Cut batch rest)
      (hsilent : succeeds = true ∨ h.notified = true) : HandedOver h succeeds ⟨some batch, none, rest⟩
  /-- The first failure. -/
  | noticed {batch : List String} {rest : History} (hcut : h.Cut batch rest) (hfails : succeeds = false)
      (hnotified : h.notified = false) :
      HandedOver h succeeds ⟨some batch, some (.error failureNotice), { rest with notified := true }⟩

private theorem handedOver_of_cut {h : History} (succeeds : Bool) {taken : Option (List String × History)}
    (hcut : ∀ batch rest, taken = some (batch, rest) → h.Cut batch rest) :
    HandedOver h succeeds (h.handOver taken succeeds) := by
  cases taken with
  | none => exact .idle
  | some cut =>
    obtain ⟨batch, rest⟩ := cut
    have hrest := hcut batch rest rfl
    by_cases hsilent : succeeds = true ∨ rest.notified = true
    · have hsettle : rest.settle succeeds = (none, rest) := by
        rw [settle, if_pos (by simpa using hsilent)]
      rw [handOver, hsettle]
      exact .silent hrest (hrest.notified_eq ▸ hsilent)
    · have hsettle : rest.settle succeeds = (some (.error failureNotice), { rest with notified := true }) := by
        rw [settle, if_neg (by simpa using hsilent)]
      rw [handOver, hsettle]
      obtain ⟨hfails, hnotified⟩ := not_or.mp hsilent
      exact .noticed hrest (Bool.eq_false_iff.mpr hfails) (hrest.notified_eq ▸ Bool.eq_false_iff.mpr hnotified)

private theorem buffered_settle (h : History) (succeeds : Bool) : (h.settle succeeds).2.buffered = h.buffered := by
  unfold settle
  split <;> rfl

theorem handedOver_flush (h : History) (succeeds : Bool) : HandedOver h succeeds (h.flush succeeds) :=
  handedOver_of_cut succeeds fun _ _ => cut_of_takeBatch?

theorem handedOver_drain (h : History) (succeeds : Bool) : HandedOver h succeeds (h.drain succeeds) :=
  handedOver_of_cut succeeds fun _ _ => cut_of_takeAll?

/-! ### A history and a place for it -/

/-- A call on a history; whether a batch that it hands over can be appended is part of the call. -/
inductive Call where
  | record (line : String)
  | flush (succeeds : Bool)
  | drain (succeeds : Bool)
  deriving DecidableEq, Repr

/-- The line that a call records. -/
def Call.line? : Call → Option String
  | record line => some line
  | flush _ | drain _ => none

/-- What a call comes to: the batch that was to be appended, with whether it was, and the notice. -/
structure Reply where
  batch : Option (List String × Bool)
  notice : Option Output
  deriving DecidableEq, Repr

/-- Whether a batch could not be appended. -/
def Reply.failed (r : Reply) : Bool :=
  r.batch.any (!·.2)

/-- A history with the memory that its batches are appended to. -/
structure Recorder where
  history : History
  memory : List String := []
  deriving DecidableEq, Repr

namespace Recorder

def new (batchSize : Nat) : Recorder :=
  { history := History.new batchSize }

/-- Appends the batch of a handover; where that fails the memory stays as it is. -/
def handOver (r : Recorder) (o : Handover) (succeeds : Bool) : Reply × Recorder :=
  let kept := if succeeds then o.batch.getD [] else []
  (⟨o.batch.map (·, succeeds), o.notice⟩, ⟨o.history, r.memory ++ kept⟩)

def call (r : Recorder) : Call → Reply × Recorder
  | .record line => (⟨none, none⟩, { r with history := r.history.record line })
  | .flush succeeds => r.handOver (r.history.flush succeeds) succeeds
  | .drain succeeds => r.handOver (r.history.drain succeeds) succeeds

/-- Where nothing is due, nothing happens. -/
theorem handOver_idle (r : Recorder) (succeeds : Bool) :
    r.handOver ⟨none, none, r.history⟩ succeeds = (⟨none, none⟩, r) := by
  have hmemory : r.memory ++ (if succeeds then [] else []) = r.memory := by
    rw [ite_self, List.append_nil]
  exact congrArg (fun memory => (Reply.mk none none, Recorder.mk r.history memory)) hmemory

/-- A batch that was cut off is handed over, whether that succeeds or not. -/
theorem handOver_taken (r : Recorder) (batch : List String) (rest : History) (succeeds : Bool) :
    (r.handOver (r.history.handOver (some (batch, rest)) succeeds) succeeds).1.batch = some (batch, succeeds) ∧
      (r.handOver (r.history.handOver (some (batch, rest)) succeeds) succeeds).2.history.buffered = rest.buffered :=
  ⟨rfl, buffered_settle rest succeeds⟩

/-- Makes one call after the other. -/
def calls (r : Recorder) (l : List Call) : List Reply × Recorder :=
  l.foldl (fun done c => (done.1 ++ [(done.2.call c).1], (done.2.call c).2)) ([], r)

private theorem calls_concat (r : Recorder) (l : List Call) (c : Call) :
    r.calls (l ++ [c]) = ((r.calls l).1 ++ [((r.calls l).2.call c).1], ((r.calls l).2.call c).2) := by
  rw [calls, List.foldl_append]
  rfl

/-! ### What becomes of the lines -/

/-- The calls `l` on a new recorder came to `replies` and left `r`. -/
structure Accounted (batchSize : Nat) (l : List Call) (replies : List Reply) (r : Recorder) : Prop where
  batchSize_eq : r.history.batchSize = max batchSize 1
  buffered_eq : (replies.filterMap (·.batch)).flatMap (·.1) ++ r.history.buffered = l.filterMap Call.line?
  batch_ne : ∀ batch ∈ replies.filterMap (·.batch), batch.1 ≠ []
  memory_eq : r.memory = ((replies.filterMap (·.batch)).filter (·.2)).flatMap (·.1)
  notified_eq : r.history.notified = replies.any (·.failed)
  notices_eq : replies.filterMap (·.notice) = if replies.any (·.failed) then [.error failureNotice] else []

variable {batchSize : Nat} {l : List Call} {replies : List Reply} {r : Recorder}

private theorem accounted_new (batchSize : Nat) : Accounted batchSize [] [] (new batchSize) where
  batchSize_eq := rfl
  buffered_eq := rfl
  batch_ne := List.forall_mem_nil _
  memory_eq := rfl
  notified_eq := rfl
  notices_eq := rfl

/-- A call that hands nothing over. -/
private theorem Accounted.quiet (h : Accounted batchSize l replies r) (c : Call) {next : Recorder}
    (hbuffered : next.history.buffered = r.history.buffered ++ c.line?.toList)
    (hbatchSize : next.history.batchSize = r.history.batchSize) (hnotified : next.history.notified = r.history.notified)
    (hmemory : next.memory = r.memory) : Accounted batchSize (l ++ [c]) (replies ++ [⟨none, none⟩]) next where
  batchSize_eq := hbatchSize.trans h.batchSize_eq
  buffered_eq := by
    rw [hbuffered, List.filterMap_append, List.filterMap_append, ← h.buffered_eq]
    cases hline : c.line? <;> simp [hline]
  batch_ne := by simpa using h.batch_ne
  memory_eq := by simpa [hmemory] using h.memory_eq
  notified_eq := by simpa [Reply.failed, hnotified] using h.notified_eq
  notices_eq := by simpa [Reply.failed] using h.notices_eq

private theorem any_failed_concat (replies : List Reply) (batch : List String) (succeeds : Bool)
    (notice : Option Output) :
    (replies ++ [Reply.mk (some (batch, succeeds)) notice]).any (·.failed) = (replies.any (·.failed) || !succeeds) := by
  rw [List.any_append]
  simp [Reply.failed]

/-- A call that hands a batch over, with a notice if it is the first that fails. -/
private theorem Accounted.batch (h : Accounted batchSize l replies r) {c : Call} (hline : c.line? = none)
    {batch : List String} {rest : History} (hcut : r.history.Cut batch rest) {succeeds : Bool} (next : History)
    (hbuffered : next.buffered = rest.buffered) (hbatchSize : next.batchSize = rest.batchSize)
    (hnotified : next.notified = (r.history.notified || !succeeds)) {notice : Option Output}
    (hnotice : notice = if r.history.notified || succeeds then none else some (.error failureNotice)) :
    Accounted batchSize (l ++ [c]) (replies ++ [⟨some (batch, succeeds), notice⟩])
      ⟨next, r.memory ++ if succeeds then batch else []⟩ where
  batchSize_eq := (hbatchSize.trans hcut.batchSize_eq).trans h.batchSize_eq
  buffered_eq := by
    have hlines := h.buffered_eq
    rw [hcut.buffered_eq] at hlines
    simp [hline, hbuffered, ← hlines]
  batch_ne := by
    have hpos : 0 < r.history.batchSize := by
      rw [h.batchSize_eq]
      omega
    rw [List.filterMap_append]
    exact List.forall_mem_append.mpr ⟨h.batch_ne, List.forall_mem_singleton.mpr (hcut.batch_ne hpos)⟩
  memory_eq := by
    rw [List.filterMap_append, List.filter_append, List.flatMap_append, ← h.memory_eq]
    cases succeeds <;> simp
  notified_eq := by rw [hnotified, h.notified_eq, any_failed_concat]
  notices_eq := by
    rw [List.filterMap_append, h.notices_eq, any_failed_concat, hnotice, h.notified_eq]
    cases replies.any (·.failed) <;> cases succeeds <;> rfl

private theorem Accounted.handOver (h : Accounted batchSize l replies r) {c : Call} (hline : c.line? = none)
    {succeeds : Bool} {o : Handover} (ho : HandedOver r.history succeeds o) :
    Accounted batchSize (l ++ [c]) (replies ++ [(r.handOver o succeeds).1]) (r.handOver o succeeds).2 := by
  cases ho with
  | idle =>
    rw [handOver_idle]
    exact h.quiet c (by rw [hline]; exact (List.append_nil _).symm) rfl rfl rfl
  | @silent batch rest hcut hsilent =>
    refine h.batch hline hcut rest rfl rfl ?_ ?_
    · rcases hsilent with rfl | hnotified <;> simp [*, hcut.notified_eq]
    · rcases hsilent with rfl | hnotified <;> simp [*]
  | @noticed batch rest hcut hfails hnotified =>
    refine h.batch hline hcut { rest with notified := true } rfl rfl ?_ ?_
    · simp [hfails]
    · simp [hfails, hnotified]

theorem Accounted.call (h : Accounted batchSize l replies r) (c : Call) :
    Accounted batchSize (l ++ [c]) (replies ++ [(r.call c).1]) (r.call c).2 := by
  cases c with
  | record line => exact h.quiet (.record line) rfl rfl rfl rfl
  | flush succeeds => exact h.handOver rfl (handedOver_flush r.history succeeds)
  | drain succeeds => exact h.handOver rfl (handedOver_drain r.history succeeds)

theorem accounted_calls_new (batchSize : Nat) (l : List Call) :
    Accounted batchSize l ((new batchSize).calls l).1 ((new batchSize).calls l).2 := by
  -- from the end: the last call is made on what the others have left
  induction l using List.reverseRecOn with
  | nil => exact accounted_new batchSize
  | append_singleton l c ih =>
    rw [calls_concat]
    exact ih.call c

/-- A notice comes with the first failure. -/
private theorem Accounted.notice_eq (h : Accounted batchSize l replies r) {c : Call} {reply : Reply} {next : Recorder}
    (hnext : Accounted batchSize (l ++ [c]) (replies ++ [reply]) next) :
    reply.notice =
      if reply.failed = true ∧ replies.any (·.failed) = false then some (.error failureNotice) else none := by
  have hnotices := hnext.notices_eq
  rw [List.filterMap_append, h.notices_eq, List.any_append, List.any_cons, List.any_nil, Bool.or_false] at hnotices
  cases hfirst : replies.any (·.failed) <;> cases hfailed : reply.failed <;> cases hnotice : reply.notice <;>
    simp [hfirst, hfailed, hnotice] at hnotices ⊢
  exact hnotices

/-- Calls on a new history with a memory for its batches, whichever of the appends succeed.  The batches, appended or
not, and the buffer make up the recorded lines in order; no batch is empty; the memory holds the batches that were
appended.  The next `flush` hands over one batch of the batch size, or does nothing if less is buffered, and the next
`drain` hands over all that is buffered.  A call gives the notice if its batch is the first that could not be
appended. -/
theorem calls_new_accounted (batchSize : Nat) (l : List Call) :
    let (replies, r) := (new batchSize).calls l
    let batches := replies.filterMap (·.batch)
    let size := max batchSize 1
    batches.flatMap (·.1) ++ r.history.buffered = l.filterMap Call.line? ∧
      (∀ batch ∈ batches, batch.1 ≠ []) ∧
      r.memory = (batches.filter (·.2)).flatMap (·.1) ∧
      replies.filterMap (·.notice) = (if replies.any (·.failed) then [.error failureNotice] else []) ∧
      ∀ c, let (reply, next) := r.call c
        (new batchSize).calls (l ++ [c]) = (replies ++ [reply], next) ∧
        reply.notice = (if reply.failed = true ∧ replies.any (·.failed) = false then some (.error failureNotice)
          else none) ∧
        match c with
        | .record line => reply = ⟨none, none⟩ ∧ next.history.buffered = r.history.buffered ++ [line]
        | .flush succeeds =>
          if size ≤ r.history.buffered.length then
            reply.batch = some (r.history.buffered.take size, succeeds) ∧
              next.history.buffered = r.history.buffered.drop size
          else reply = ⟨none, none⟩ ∧ next = r
        | .drain succeeds =>
          if r.history.buffered ≠ [] then
            reply.batch = some (r.history.buffered, succeeds) ∧ next.history.buffered = []
          else reply = ⟨none, none⟩ ∧ next = r := by
  have h := accounted_calls_new batchSize l
  have hconcat := calls_concat (new batchSize) l
  generalize (new batchSize).calls l = done at h hconcat ⊢
  obtain ⟨replies, r⟩ := done
  refine ⟨h.buffered_eq, h.batch_ne, h.memory_eq, h.notices_eq, fun c => ⟨hconcat c, h.notice_eq (h.call c), ?_⟩⟩
  have hsize := h.batchSize_eq
  cases c with
  | record line => exact ⟨rfl, rfl⟩
  | flush succeeds =>
    dsimp only
    rw [← hsize, flush]
    split
    · rename_i hfull
      rw [takeBatch?_of_le hfull]
      exact r.handOver_taken _ _ succeeds
    · rename_i hfew
      rw [takeBatch?_of_lt (Nat.lt_of_not_le hfew)]
      exact Prod.mk.inj (r.handOver_idle succeeds)
  | drain succeeds =>
    dsimp only
    rw [drain]
    split
    · rename_i hsome
      rw [takeAll?_of_ne_nil hsome]
      exact r.handOver_taken _ _ succeeds
    · rename_i hnone
      rw [takeAll?_of_eq_nil (not_not.mp hnone)]
      exact Prod.mk.inj (r.handOver_idle succeeds)

end Recorder

end History

end Stockroom
