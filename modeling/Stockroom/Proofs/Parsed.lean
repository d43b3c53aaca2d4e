import Stockroom.Command.Parse

/-!
# Commands that were read

What is known of a command because it was read from a line: each of its numbers is one that a token can hold
(`natAbs_le_of_parse`).  Of these only a limit matters later (`Command.Typable`): quantities are checked against the
stock, and any number can name a warehouse.
-/

namespace Stockroom

theorem bind_eq_ok {ε α β : Type} {x : Except ε α} {f : α → Except ε β} {b : β} :
    x >>= f = .ok b ↔ ∃ a, x = .ok a ∧ f a = .ok b := by
  cases x <;> simp [bind, Except.bind]

theorem bind_eq_error {ε α β : Type} {x : Except ε α} {f : α → Except ε β} {e : ε} :
    x >>= f = .error e ↔ x = .error e ∨ ∃ a, x = .ok a ∧ f a = .error e := by
  cases x <;> simp [bind, Except.bind]

/-- The numbers of a command. -/
def Command.numbers : Command → List Int
  | addProduct .. => []
  | addWarehouse number limit => number :: limit.toList
  | stock _ warehouse quantity => [warehouse, quantity]
  | unstock _ warehouse quantity => [warehouse, quantity]
  | listProducts => []
  | listWarehouses => []
  | listWarehouse warehouse => [warehouse]

/-- A limit that the command gives is at most `maxNumber`, as every number in a token is. -/
def Command.Typable : Command → Prop
  | addWarehouse _ (some limit) => limit ≤ maxNumber
  | _ => True

/-! ### The numbers come from tokens -/

theorem natAbs_le_of_readNumber {token : List Char} {n : Int} (h : readNumber token = some n) :
    n.natAbs ≤ maxNumber := by
  simp only [readNumber] at h
  split at h
  · simp at h
  · split at h
    · rename_i hle
      have hn := Option.some.inj h
      split at hn <;> omega
    · simp at h

private theorem natAbs_le_of_check {p : Parameter} {token name : String} {n : Int}
    (h : (p.check token).get? = some (name, .number n)) : n.natAbs ≤ maxNumber := by
  unfold Parameter.check ParameterType.read at h
  cases hp : p.type with
  | text => simp [hp, Checked.get?] at h
  | number =>
    cases hr : readNumber token.toList with
    | none => simp [hp, hr, Checked.get?] at h
    | some m =>
      simp only [hp, hr, Option.map_some, Checked.get?, Option.some.injEq, Prod.mk.injEq, Value.number.injEq] at h
      rw [← h.2]
      exact natAbs_le_of_readNumber hr

private theorem natAbs_le_of_mem_checkArguments {ps : List Parameter} {tokens : List String} {r : Checked}
    (hr : r ∈ checkArguments ps tokens) {name : String} {n : Int} (h : r.get? = some (name, .number n)) :
    n.natAbs ≤ maxNumber := by
  induction ps generalizing tokens with
  | nil => simp [checkArguments] at hr
  | cons p ps ih =>
    cases tokens with
    | nil =>
      unfold checkArguments at hr
      split at hr
      · rcases List.mem_cons.1 hr with rfl | hr
        · simp [Checked.get?] at h
        · exact ih hr
      · exact ih hr
    | cons token tokens =>
      rcases List.mem_cons.1 hr with rfl | hr
      · exact natAbs_le_of_check h
      · exact ih hr

private theorem natAbs_le_of_mem_entries {ps : List Parameter} {text : List Char} {args : Arguments}
    (h : readArguments ps text = .ok args) {name : String} {n : Int} (hn : (name, .number n) ∈ args.entries) :
    n.natAbs ≤ maxNumber := by
  rw [readArguments_eq, Arguments.ofChecked] at h
  split at h
  · obtain rfl := Except.ok.inj h
    obtain ⟨r, hr, hget⟩ := List.mem_filterMap.1 hn
    exact natAbs_le_of_mem_checkArguments hr hget
  · simp at h

private theorem mem_of_number? {args : Arguments} {name : String} {n : Int} (h : args.number? name = some n) :
    (name, .number n) ∈ args.entries := by
  unfold Arguments.number? at h
  split at h
  · rename_i m hm
    rw [← Option.some.inj h]
    obtain ⟨before, after, hsplit, -⟩ := List.lookup_eq_some_iff.1 hm
    rw [hsplit]
    exact List.mem_append_right _ List.mem_cons_self
  · simp at h

private theorem number?_of_number {args : Arguments} {name : String} {n : Int} (h : args.number name = .ok n) :
    args.number? name = some n := by
  unfold Arguments.number at h
  split at h
  · rename_i m hm
    rw [hm, Except.ok.inj h]
  · simp at h

/-- Every number of a command is the value of one of its arguments. -/
private theorem number?_of_mem_numbers {op : Operation} {args : Arguments} {c : Command}
    (h : Command.ofArguments op args = .ok c) {n : Int} (hn : n ∈ c.numbers) :
    ∃ name, args.number? name = some n := by
  cases op with
  | addProduct =>
    obtain ⟨_, -, h⟩ := bind_eq_ok.1 h
    obtain ⟨_, -, h⟩ := bind_eq_ok.1 h
    obtain rfl := Except.ok.inj h
    simp [Command.numbers] at hn
  | addWarehouse =>
    obtain ⟨number, hw, h⟩ := bind_eq_ok.1 h
    obtain rfl := Except.ok.inj h
    rcases List.mem_cons.1 hn with rfl | hn
    · exact ⟨_, number?_of_number hw⟩
    · exact ⟨_, Option.mem_toList.1 hn⟩
  | stock | unstock =>
    obtain ⟨_, -, h⟩ := bind_eq_ok.1 h
    obtain ⟨warehouse, hw, h⟩ := bind_eq_ok.1 h
    obtain ⟨quantity, hq, h⟩ := bind_eq_ok.1 h
    obtain rfl := Except.ok.inj h
    simp only [Command.numbers, List.mem_cons, List.not_mem_nil, or_false] at hn
    rcases hn with rfl | rfl
    · exact ⟨_, number?_of_number hw⟩
    · exact ⟨_, number?_of_number hq⟩
  | listProducts | listWarehouses =>
    obtain rfl := Except.ok.inj h
    simp [Command.numbers] at hn
  | listWarehouse =>
    obtain ⟨warehouse, hw, h⟩ := bind_eq_ok.1 h
    obtain rfl := Except.ok.inj h
    rw [List.mem_singleton.1 hn]
    exact ⟨_, number?_of_number hw⟩

theorem natAbs_le_of_parse {line : String} {c : Command} (h : Command.parse line = .ok c) {n : Int}
    (hn : n ∈ c.numbers) : n.natAbs ≤ maxNumber := by
  obtain ⟨found, -, h⟩ := bind_eq_ok.1 h
  obtain ⟨args, hargs, h⟩ := bind_eq_ok.1 h
  obtain ⟨name, hname⟩ := number?_of_mem_numbers h hn
  exact natAbs_le_of_mem_entries hargs (mem_of_number? hname)

theorem typable_of_parse {line : String} {c : Command} (h : Command.parse line = .ok c) : c.Typable := by
  cases c with
  | addWarehouse number typed =>
    cases typed with
    | none => trivial
    | some limit =>
      have hle : limit.natAbs ≤ maxNumber := natAbs_le_of_parse h (by simp [Command.numbers])
      show limit ≤ maxNumber
      omega
  | addProduct | stock | unstock | listProducts | listWarehouses | listWarehouse => trivial

end Stockroom
