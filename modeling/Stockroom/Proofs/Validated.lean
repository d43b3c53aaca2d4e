import Stockroom.Proofs.Executed
import Stockroom.Proofs.Parsed
import Stockroom.Session

/-!
# Arguments that were checked are there

A command is put together from arguments by their names, without looking at the table again.  That this cannot fail
rests on three facts: arguments that passed the check of a definition have a value of the right type for every required
parameter (`supplied_of_ofChecked`), an operation asks only for the required parameters of its own definition
(`ofArguments_of_supplied`), and the definition that a line matches is that of an operation
(`operation_of_matchCommand`).  So no internal fault comes from reading a line, nor from executing a command
(`no_internal_fault`).
-/

namespace Stockroom

/-! ### Required parameters have a value -/

def Value.type : Value → ParameterType
  | text _ => .text
  | number _ => .number

/-- The arguments hold a value of the right type for every required parameter. -/
def Arguments.Supplied (parameters : List Parameter) (args : Arguments) : Prop :=
  ∀ p ∈ parameters, p.required = true → ∃ v, args.get? p.name = some v ∧ v.type = p.type

theorem ParameterType.type_of_read {type : ParameterType} {token : String} {v : Value}
    (h : type.read token = some v) : v.type = type := by
  cases type with
  | text =>
    obtain rfl := Option.some.inj h
    rfl
  | number =>
    obtain ⟨n, -, rfl⟩ := Option.map_eq_some_iff.1 h
    rfl

/-- A token that passes the check of a parameter is kept under its name with a value of its type. -/
private theorem get?_of_check {p : Parameter} {token : String} (h : (p.check token).isValid = true) :
    ∃ v, (p.check token).get? = some (p.name, v) ∧ v.type = p.type := by
  unfold Parameter.check at h ⊢
  cases hr : p.type.read token with
  | none => simp [hr, Checked.isValid] at h
  | some v => exact ⟨v, rfl, ParameterType.type_of_read hr⟩

private theorem lookup_of_checkArguments {ps : List Parameter} {tokens : List String}
    (hn : (ps.map (·.name)).Nodup) (hv : (checkArguments ps tokens).all Checked.isValid = true) {p : Parameter}
    (hp : p ∈ ps) (hr : p.required = true) :
    ∃ v, ((checkArguments ps tokens).filterMap Checked.get?).lookup p.name = some v ∧ v.type = p.type := by
  induction ps generalizing tokens with
  | nil => exact absurd hp List.not_mem_nil
  | cons q ps ih =>
    obtain ⟨hq, hn⟩ := List.nodup_cons.1 hn
    cases tokens with
    | nil =>
      unfold checkArguments at hv ⊢
      split at hv
      · -- a required parameter without a token does not pass
        simp [Checked.isValid] at hv
      · rename_i hopt
        rw [if_neg hopt]
        rcases List.mem_cons.1 hp with rfl | hp
        · exact absurd hr hopt
        · exact ih hn hv hp
    | cons token rest =>
      rw [checkArguments, List.all_cons, Bool.and_eq_true] at hv
      obtain ⟨v, hget, htype⟩ := get?_of_check hv.1
      rw [checkArguments, List.filterMap_cons_some hget, List.lookup_cons]
      rcases List.mem_cons.1 hp with rfl | hp
      · exact ⟨v, by simp, htype⟩
      · -- the names are distinct, so the first value is not the one looked for
        have hne : p.name ≠ q.name := fun heq => hq (List.mem_map.2 ⟨p, hp, heq⟩)
        rw [beq_false_of_ne hne]
        exact ih hn hv.2 hp

theorem supplied_of_ofChecked {ps : List Parameter} {tokens : List String} {args : Arguments}
    (hn : (ps.map (·.name)).Nodup) (h : Arguments.ofChecked (checkArguments ps tokens) = .ok args) :
    args.Supplied ps := by
  unfold Arguments.ofChecked at h
  split at h
  · rename_i hv
    obtain rfl := Except.ok.inj h
    intro p hp hr
    exact lookup_of_checkArguments hn hv hp hr
  · cases h

namespace Arguments.Supplied

variable {parameters : List Parameter} {args : Arguments} {p : Parameter}

theorem text (h : args.Supplied parameters) (hp : p ∈ parameters) (hr : p.required = true) (ht : p.type = .text) :
    ∃ s, args.text p.name = .ok s := by
  obtain ⟨v, hget, htype⟩ := h p hp hr
  cases v with
  | text s => exact ⟨s, by simp [Arguments.text, text?, hget]⟩
  | number n => exact absurd (htype.trans ht) (by simp [Value.type])

theorem number (h : args.Supplied parameters) (hp : p ∈ parameters) (hr : p.required = true)
    (ht : p.type = .number) : ∃ n, args.number p.name = .ok n := by
  obtain ⟨v, hget, htype⟩ := h p hp hr
  cases v with
  | text s => exact absurd (htype.trans ht) (by simp [Value.type])
  | number n => exact ⟨n, by simp [Arguments.number, number?, hget]⟩

end Arguments.Supplied

/-! ### Operations ask for their own parameters -/

theorem Operation.nodup_names (op : Operation) : (op.definition.parameters.map (·.name)).Nodup := by
  cases op <;> decide

theorem Operation.operation_definition (op : Operation) : op.definition.operation = op := by
  cases op <;> rfl

private theorem stocking_of_supplied {args : Arguments}
    (h : args.Supplied [.sku, .warehouse, .quantity]) :
    ∃ sku warehouse quantity, args.text Parameter.sku.name = .ok sku ∧
      args.number Parameter.warehouse.name = .ok warehouse ∧ args.number Parameter.quantity.name = .ok quantity := by
  obtain ⟨sku, hsku⟩ := h.text (p := .sku) (by decide) rfl rfl
  obtain ⟨warehouse, hwarehouse⟩ := h.number (p := .warehouse) (by decide) rfl rfl
  obtain ⟨quantity, hquantity⟩ := h.number (p := .quantity) (by decide) rfl rfl
  exact ⟨sku, warehouse, quantity, hsku, hwarehouse, hquantity⟩

theorem ofArguments_of_supplied {op : Operation} {args : Arguments} (h : args.Supplied op.definition.parameters) :
    ∃ c, Command.ofArguments op args = .ok c := by
  cases op with
  | addProduct =>
    obtain ⟨name, hname⟩ := h.text (p := .productName) (by decide) rfl rfl
    obtain ⟨sku, hsku⟩ := h.text (p := .sku) (by decide) rfl rfl
    exact ⟨.addProduct name sku, bind_eq_ok.2 ⟨name, hname, bind_eq_ok.2 ⟨sku, hsku, rfl⟩⟩⟩
  | addWarehouse =>
    obtain ⟨number, hnumber⟩ := h.number (p := .warehouse) (by decide) rfl rfl
    exact ⟨_, bind_eq_ok.2 ⟨number, hnumber, rfl⟩⟩
  | stock =>
    obtain ⟨sku, warehouse, quantity, hsku, hwarehouse, hquantity⟩ := stocking_of_supplied h
    exact ⟨.stock sku warehouse quantity,
      bind_eq_ok.2 ⟨sku, hsku, bind_eq_ok.2 ⟨warehouse, hwarehouse, bind_eq_ok.2 ⟨quantity, hquantity, rfl⟩⟩⟩⟩
  | unstock =>
    obtain ⟨sku, warehouse, quantity, hsku, hwarehouse, hquantity⟩ := stocking_of_supplied h
    exact ⟨.unstock sku warehouse quantity,
      bind_eq_ok.2 ⟨sku, hsku, bind_eq_ok.2 ⟨warehouse, hwarehouse, bind_eq_ok.2 ⟨quantity, hquantity, rfl⟩⟩⟩⟩
  | listProducts => exact ⟨.listProducts, rfl⟩
  | listWarehouses => exact ⟨.listWarehouses, rfl⟩
  | listWarehouse =>
    obtain ⟨warehouse, hwarehouse⟩ := h.number (p := .warehouse) (by decide) rfl rfl
    exact ⟨.listWarehouse warehouse, bind_eq_ok.2 ⟨warehouse, hwarehouse, rfl⟩⟩

/-! ### Lines match definitions of operations -/

theorem operation_of_matchCommand {line : List Char} {found : Matched}
    (h : matchCommand commandTable line = .ok found) : ∃ op : Operation, found.definition = op.definition := by
  simp only [matchCommand] at h
  split at h
  · rename_i d hd
    obtain rfl := Except.ok.inj h
    have hmem : d ∈ commandTable := (List.mem_filter.1 (mem_of_longest? hd)).1
    obtain ⟨op, -, rfl⟩ := List.mem_map.1 hmem
    exact ⟨op, rfl⟩
  · cases h

/-- Arguments that do not pass leave a reason. -/
private theorem reasons_of_ofChecked {results : List Checked} {fault : Fault}
    (h : Arguments.ofChecked results = .error fault) : ∃ reasons, reasons ≠ [] ∧ fault = .invalidArguments reasons := by
  unfold Arguments.ofChecked at h
  split at h
  · cases h
  · rename_i hv
    refine ⟨_, ?_, (Except.error.inj h).symm⟩
    obtain ⟨r, hr, hinvalid⟩ : ∃ r ∈ results, ¬ r.isValid = true := by simpa using hv
    cases r with
    | valid name value => exact absurd rfl hinvalid
    | invalid f =>
      have hmem : f ∈ results.filterMap Checked.fault? := List.mem_filterMap.2 ⟨_, hr, rfl⟩
      exact List.ne_nil_of_mem (List.mem_map_of_mem hmem)

theorem words_of_matchCommand {table : List Definition} {line : List Char} {fault : Fault}
    (h : matchCommand table line = .error fault) : ∃ words, fault = .unknownCommand words := by
  simp only [matchCommand] at h
  split at h
  · cases h
  · exact ⟨_, (Except.error.inj h).symm⟩

/-- A line is a command, or its words are unknown, or its arguments are refused for at least one reason. -/
theorem parse_cases (line : String) :
    (∃ c, Command.parse line = .ok c) ∨ (∃ words, Command.parse line = .error (.unknownCommand words)) ∨
      ∃ reasons, reasons ≠ [] ∧ Command.parse line = .error (.invalidArguments reasons) := by
  cases hm : matchCommand commandTable (settleQuotes line.toList) with
  | error fault =>
    obtain ⟨words, rfl⟩ := words_of_matchCommand hm
    exact .inr (.inl ⟨words, bind_eq_error.2 (.inl hm)⟩)
  | ok found =>
    obtain ⟨op, hop⟩ := operation_of_matchCommand hm
    cases ha : readArguments found.definition.parameters found.remainder with
    | error fault =>
      obtain ⟨reasons, hne, rfl⟩ := reasons_of_ofChecked (readArguments_eq _ _ ▸ ha)
      exact .inr (.inr ⟨reasons, hne, bind_eq_error.2 (.inr ⟨found, hm, bind_eq_error.2 (.inl ha)⟩)⟩)
    | ok args =>
      have hs : args.Supplied op.definition.parameters := by
        rw [hop, readArguments_eq] at ha
        exact supplied_of_ofChecked op.nodup_names ha
      obtain ⟨c, hc⟩ := ofArguments_of_supplied hs
      refine .inl ⟨c, bind_eq_ok.2 ⟨found, hm, bind_eq_ok.2 ⟨args, ha, ?_⟩⟩⟩
      rw [hop, op.operation_definition]
      exact hc

/-- No internal fault can be reached.  Every line is a command, or has unknown words, or has arguments that are refused
for a reason; arguments that pass the check of an operation make a command; and whatever the session has been through,
a command is carried out or refused. -/
theorem Session.no_internal_fault :
    (∀ line, (∃ c, Command.parse line = .ok c) ∨
        (∃ words, Command.parse line = .error (.unknownCommand words)) ∨
        ∃ reasons, reasons ≠ [] ∧ Command.parse line = .error (.invalidArguments reasons)) ∧
      (∀ (op : Operation) tokens args,
        Arguments.ofChecked (checkArguments op.definition.parameters tokens) = .ok args →
          ∃ c, Command.ofArguments op args = .ok c) ∧
      ∀ lines c fault, ((new.run lines).inventory.execute c).1 = .error fault →
        ∃ sentence, fault = .refused sentence := by
  refine ⟨parse_cases, ?_, ?_⟩
  · intro op tokens args ha
    exact ofArguments_of_supplied (supplied_of_ofChecked op.nodup_names ha)
  · intro lines c fault he
    obtain ⟨-, r, -, rfl⟩ := Inventory.refused_of_execute (Prod.ext he rfl)
    exact ⟨r.sentence, rfl⟩

end Stockroom
