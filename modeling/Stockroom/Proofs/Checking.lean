import Mathlib.Data.List.Basic
import Stockroom.Command.Argument

/-!
# What a check of arguments reports

A parameter is checked against the token in its place and against nothing else.  So a check is described by the list of
the parameters with their tokens (`placed`): what it collects is one outcome after the other, without those of optional
parameters that have no token (`checkArguments_eq`); it fails if some parameter does not accept its token, with one
reason for each that does not (`faults_eq`); and otherwise the first value of a name belongs to the first parameter of
that name that has a token (`lookup_filterMap_read`).  Nothing is assumed of the parameters: names may be repeated, and
optional ones may stand in front of required ones.
-/

namespace Stockroom

namespace Parameter

/-- The parameter passes with this token, or without one. -/
def Accepts (p : Parameter) : Option String → Prop
  | some token => ∃ value, p.type.read token = some value
  | none => p.required = false

/-- What is wrong with this token, or with there being none. -/
def faultOf (p : Parameter) : Option String → ArgumentFault
  | some _ => .wrongType p.type p.name
  | none => .missing p.name

instance (p : Parameter) (t : Option String) : Decidable (p.Accepts t) :=
  match t with
  | some token => decidable_of_iff ((p.type.read token).isSome = true) Option.isSome_iff_exists
  | none => inferInstanceAs (Decidable (p.required = false))

/-- What comes of the parameter with this token, or without one: its value, if there is one, or its fault. -/
def outcome? (p : Parameter) (t : Option String) : Option Checked :=
  if p.Accepts t then t.bind fun token => (p.type.read token).map (.valid p.name ·)
  else some (.invalid (p.faultOf t))

private theorem outcome?_some (p : Parameter) (token : String) : p.outcome? (some token) = some (p.check token) := by
  cases hv : p.type.read token <;> simp [outcome?, Accepts, faultOf, check, hv]

private theorem outcome?_none (p : Parameter) :
    p.outcome? none = if p.required then some (.invalid (.missing p.name)) else none := by
  cases hr : p.required <;> simp [outcome?, Accepts, faultOf, hr]

/-- Only an optional parameter without a token leaves no trace. -/
private theorem outcome?_eq_none_iff {p : Parameter} {t : Option String} :
    p.outcome? t = none ↔ p.required = false ∧ t = none := by
  cases t with
  | none => simp [outcome?_none]
  | some token => simp [outcome?_some]

private theorem accepts_iff {p : Parameter} {t : Option String} :
    p.Accepts t ↔ ∀ outcome, p.outcome? t = some outcome → outcome.isValid = true := by
  unfold outcome?
  split
  · rename_i h
    refine iff_of_true h ?_
    intro outcome ho
    obtain ⟨token, -, hv⟩ := Option.bind_eq_some_iff.1 ho
    obtain ⟨value, -, rfl⟩ := Option.map_eq_some_iff.1 hv
    rfl
  · rename_i h
    refine iff_of_false h ?_
    intro hall
    exact absurd (hall _ rfl) Bool.false_ne_true

/-- The fault of a parameter that is not accepted, and no other. -/
private theorem outcome?_bind_fault? (p : Parameter) (t : Option String) :
    (p.outcome? t).bind Checked.fault? = if p.Accepts t then none else some (p.faultOf t) := by
  unfold outcome?
  split
  · cases t with
    | none => rfl
    | some token => cases hv : p.type.read token <;> simp [hv, Checked.fault?]
  · rfl

end Parameter

/-- Each parameter with the token in its place, if there is one. -/
def placed (ps : List Parameter) (tokens : List String) : List (Parameter × Option String) :=
  ps.mapIdx fun i p => (p, tokens[i]?)

section Placed

variable (p : Parameter) (ps : List Parameter) (token : String) (tokens : List String)

private theorem placed_cons_nil : placed (p :: ps) [] = (p, none) :: placed ps [] := by
  simp [placed, List.mapIdx_cons]

private theorem placed_cons_cons : placed (p :: ps) (token :: tokens) = (p, some token) :: placed ps tokens := by
  simp [placed, List.mapIdx_cons]

/-- There is no place for tokens beyond the parameters. -/
private theorem placed_take : placed ps (tokens.take ps.length) = placed ps tokens := by
  apply List.ext_getElem?
  intro i
  rw [placed, placed, List.getElem?_mapIdx, List.getElem?_mapIdx]
  cases hp : ps[i]? with
  | none => rfl
  | some q =>
    have hi : i < ps.length := (List.getElem?_eq_some_iff.1 hp).1
    rw [List.getElem?_take_of_lt hi]

/-! ### The outcomes in their order -/

theorem checkArguments_eq : checkArguments ps tokens = (placed ps tokens).filterMap fun x => x.1.outcome? x.2 := by
  induction ps generalizing tokens with
  | nil => rfl
  | cons p ps ih =>
    cases tokens with
    | nil =>
      rw [checkArguments, placed_cons_nil, List.filterMap_cons, Parameter.outcome?_none, ih]
      cases p.required <;> rfl
    | cons token tokens =>
      rw [checkArguments, placed_cons_cons, List.filterMap_cons, Parameter.outcome?_some, ih]

private theorem all_isValid_iff :
    (checkArguments ps tokens).all Checked.isValid = true ↔ ∀ x ∈ placed ps tokens, x.1.Accepts x.2 := by
  simp only [checkArguments_eq, List.all_eq_true, List.mem_filterMap, Parameter.accepts_iff]
  exact ⟨fun h x hx outcome ho => h outcome ⟨x, hx, ho⟩, fun h outcome ⟨x, hx, ho⟩ => h x hx outcome ho⟩

/-! ### The reasons of the parameters that fail -/

theorem faults_eq :
    (checkArguments ps tokens).filterMap Checked.fault? =
      ((placed ps tokens).filter fun x => ¬ x.1.Accepts x.2).map fun x => x.1.faultOf x.2 := by
  rw [checkArguments_eq, List.filterMap_filterMap, ← List.filterMap_eq_map, List.filterMap_filter]
  apply List.filterMap_congr
  intro x _
  rw [Parameter.outcome?_bind_fault?]
  by_cases h : x.1.Accepts x.2 <;> simp [h]

/-! ### The values of the parameters that have a token -/

theorem entries_eq :
    (checkArguments ps tokens).filterMap Checked.get? =
      (ps.zip tokens).filterMap fun x => (x.1.type.read x.2).map fun value => (x.1.name, value) := by
  induction ps generalizing tokens with
  | nil => rfl
  | cons p ps ih =>
    cases tokens with
    | nil =>
      have hnil := ih []
      rw [List.zip_nil_right] at hnil ⊢
      rw [checkArguments]
      split
      · rw [List.filterMap_cons_none rfl, hnil]
      · exact hnil
    | cons token tokens =>
      rw [checkArguments, Parameter.check, List.zip_cons_cons, List.filterMap_cons, List.filterMap_cons, ih]
      cases p.type.read token <;> rfl

private theorem exists_read_of_mem_zip {ps : List Parameter} {tokens : List String}
    (h : ∀ x ∈ placed ps tokens, x.1.Accepts x.2) :
    ∀ x ∈ ps.zip tokens, ∃ value, x.1.type.read x.2 = some value := by
  induction ps generalizing tokens with
  | nil => simp
  | cons p ps ih =>
    cases tokens with
    | nil => simp
    | cons token tokens =>
      rw [placed_cons_cons, List.forall_mem_cons] at h
      rw [List.zip_cons_cons, List.forall_mem_cons]
      exact ⟨h.1, ih h.2⟩

end Placed

/-- Where every entry is read, a name belongs to the first one that has it. -/
theorem lookup_filterMap_read {l : List (Parameter × String)} (h : ∀ x ∈ l, ∃ value, x.1.type.read x.2 = some value)
    (name : String) :
    (l.filterMap fun x => (x.1.type.read x.2).map fun value => (x.1.name, value)).lookup name =
      (l.find? fun x => x.1.name = name).bind fun x => x.1.type.read x.2 := by
  induction l with
  | nil => rfl
  | cons x l ih =>
    obtain ⟨⟨value, hv⟩, hl⟩ := List.forall_mem_cons.1 h
    rw [List.filterMap_cons_some (by rw [hv]; rfl), List.lookup_cons, List.find?_cons]
    by_cases hname : x.1.name = name
    · simp [hname, hv]
    · rw [beq_false_of_ne (Ne.symm hname), decide_eq_false hname]
      exact ih hl

/-! ### The whole check -/

theorem isValid_all_iff (results : List Checked) :
    results.all Checked.isValid = true ↔ ∀ fault, .invalid fault ∉ results := by
  rw [List.all_eq_true]
  constructor
  · intro h fault hmem
    exact absurd (h _ hmem) Bool.false_ne_true
  · intro h outcome hmem
    cases outcome with
    | valid => rfl
    | invalid fault => exact absurd hmem (h fault)

theorem arguments_eq (ps : List Parameter) (tokens : List String) :
    (validate ps tokens).arguments =
      if ∀ x ∈ placed ps tokens, x.1.Accepts x.2 then
        .ok ⟨(ps.zip tokens).filterMap fun x => (x.1.type.read x.2).map fun value => (x.1.name, value)⟩
      else
        .error (.invalidArguments
          (((placed ps tokens).filter fun x => ¬ x.1.Accepts x.2).map fun x => (x.1.faultOf x.2).reason)) := by
  rw [arguments_validate, Arguments.ofChecked, entries_eq, faults_eq, List.map_map]
  simp only [all_isValid_iff]
  rfl

/-- The arguments of a check that passes. -/
theorem entries_of_arguments {ps : List Parameter} {tokens : List String} {args : Arguments}
    (h : (validate ps tokens).arguments = .ok args) :
    (∀ x ∈ ps.zip tokens, ∃ value, x.1.type.read x.2 = some value) ∧
      args.entries =
        (ps.zip tokens).filterMap fun x => (x.1.type.read x.2).map fun value => (x.1.name, value) := by
  rw [arguments_eq] at h
  split at h
  · rename_i hall
    obtain rfl := Except.ok.inj h
    exact ⟨exists_read_of_mem_zip hall, rfl⟩
  · cases h

/-- What a check reports.  There is one outcome for each parameter, in their order, but none for an optional one without
a token, and the flag says whether all are valid.  The arguments are there if every parameter accepts its token;
otherwise the reasons are those of the parameters that do not, one for each in their order.  There are as many arguments
as parameters have tokens, the value of a name is that of the first such parameter, and tokens beyond the parameters
make no difference. -/
theorem validate_exact (ps : List Parameter) (tokens : List String) :
    ((validate ps tokens).results = (placed ps tokens).filterMap (fun x => x.1.outcome? x.2) ∧
        ∀ x ∈ placed ps tokens, x.1.outcome? x.2 = none ↔ x.1.required = false ∧ x.2 = none) ∧
      ((validate ps tokens).allValid = true ↔ ∀ fault, .invalid fault ∉ (validate ps tokens).results) ∧
      ((∃ args, (validate ps tokens).arguments = .ok args) ↔ ∀ x ∈ placed ps tokens, x.1.Accepts x.2) ∧
      (¬ (∀ x ∈ placed ps tokens, x.1.Accepts x.2) →
        (validate ps tokens).arguments = .error (.invalidArguments
          (((placed ps tokens).filter fun x => ¬ x.1.Accepts x.2).map fun x => (x.1.faultOf x.2).reason))) ∧
      (∀ args, (validate ps tokens).arguments = .ok args →
        args.entries.length = min tokens.length ps.length ∧
          ∀ name, args.get? name =
            ((ps.zip tokens).find? fun x => x.1.name = name).bind fun x => x.1.type.read x.2) ∧
      validate ps tokens = validate ps (tokens.take ps.length) := by
  refine ⟨⟨?_, fun _ _ => Parameter.outcome?_eq_none_iff⟩, ?_, ?_, ?_, ?_, ?_⟩
  · rw [validate_eq, checkArguments_eq]
  · rw [validate_eq]
    exact isValid_all_iff _
  · rw [arguments_eq]
    split
    · rename_i hall
      exact iff_of_true ⟨_, rfl⟩ hall
    · rename_i hsome
      refine iff_of_false ?_ hsome
      rintro ⟨args, hargs⟩
      cases hargs
  · intro hsome
    rw [arguments_eq, if_neg hsome]
  · intro args hargs
    obtain ⟨hread, hentries⟩ := entries_of_arguments hargs
    have hsome : ∀ x ∈ ps.zip tokens, ((x.1.type.read x.2).map fun value => (x.1.name, value)).isSome = true := by
      intro x hx
      obtain ⟨value, hv⟩ := hread x hx
      rw [hv]
      rfl
    refine ⟨?_, fun name => ?_⟩
    · rw [hentries, List.filterMap_length_eq_length.2 hsome, List.length_zip, Nat.min_comm]
    · rw [Arguments.get?, hentries, lookup_filterMap_read hread]
  · rw [validate_eq, validate_eq, checkArguments_eq, checkArguments_eq, placed_take]

/-- An optional parameter takes the first token even if a required one of its name stands behind it. -/
example : validate [⟨"code", .text, false⟩, ⟨"code", .text, true⟩] ["A"] =
    ⟨false, [.valid "code" (.text "A"), .invalid (.missing "code")]⟩ := by
  decide

end Stockroom
