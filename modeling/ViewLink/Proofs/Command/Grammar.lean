import ViewLink.Command.Validate
import ViewLink.Proofs.Except

/-!
# The grammar of commands

`Valid` says which values are commands, at the top level or not, by the rules that build them: one
for a literal and one for each indicator. It does not follow the order in which a validator looks at
a value, and it mentions no error.

The validator and the grammar agree. `validate` succeeds on the values of the grammar and on no
others, and since it rebuilds what it checks, the second half of the statement matters as much: what
it gives back is the value it was given.
-/

set_option autoImplicit false

namespace ViewLink.Command

open Json (Value Members)

/-! ## The rules -/

/-- **The values that are commands.** The flag says whether the place is one, like the top level,
where a literal will not do. Only the target of a method is such a place inside a command. -/
inductive Valid : Bool → Value → Prop where
  /-- A literal stands for itself. -/
  | literal {v : Value} (scalar : v.isArray = false) : Valid false v
  /-- A call of a function. -/
  | function {top : Bool} {name : String} {args : List Value}
      (arguments : ∀ a ∈ args, Valid false a) :
      Valid top (.array (.string "fun" :: .string name :: args))
  /-- A call of a method. -/
  | method {top : Bool} {target : Value} {name : String} {args : List Value}
      (receiver : Valid true target) (arguments : ∀ a ∈ args, Valid false a) :
      Valid top (.array (.string "method" :: target :: .string name :: args))
  /-- A list. -/
  | list {top : Bool} {items : List Value} (elements : ∀ x ∈ items, Valid false x) :
      Valid top (.array (.string "list" :: items))
  /-- A dictionary. -/
  | dict {top : Bool} {members : Json.Object}
      (values : ∀ m ∈ members.toList, Valid false m.2) :
      Valid top (.array [.string "dict", .object members])
  /-- A value that is passed through. -/
  | id {top : Bool} {value : Value} : Valid top (.array [.string "id", value])

/-! ## Indicators -/

theorem word_of_ofWord? {text : String} {i : Indicator} (h : Indicator.ofWord? text = some i) :
    i.word = text := by
  simpa using List.find?_some h

theorem indicator?_head (i : Indicator) : indicator? (Builder.head i) = some i :=
  Indicator.ofWord?_word i

theorem indicator?_eq_some {head : Value} {i : Indicator} :
    indicator? head = some i ↔ head = Builder.head i := by
  constructor
  · intro h
    obtain ⟨text, htext, hi⟩ := Option.bind_eq_some_iff.1 h
    cases head with
    | string s =>
        obtain rfl : s = text := by simpa [Value.asString?] using htext
        rw [Builder.head, word_of_ofWord? hi]
    | _ => simp [Value.asString?] at htext
  · rintro rfl
    exact indicator?_head i

/-! ## What the grammar admits is given back -/

theorem validateAll_eq_self {vs : List Value} (h : ∀ v ∈ vs, validate false v = .ok v) :
    validateAll vs = .ok vs := by
  induction vs with
  | nil => rfl
  | cons v vs ih =>
      have hv := h v (by simp)
      have hvs := ih fun w hw => h w (by simp [hw])
      rw [validateAll, hv, hvs]
      rfl

theorem validateMembers_eq_self {bound : Option String} {ms : Members Value bound}
    (h : ∀ m ∈ ms.toList, validate false m.2 = .ok m.2) : validateMembers ms = .ok ms := by
  induction ms with
  | nil => rfl
  | cons key above value rest ih =>
      have hv := h (key, value) (by simp [Members.toList])
      have hrest := ih fun m hm => h m (by simp [Members.toList, hm])
      rw [validateMembers, hv, hrest]
      rfl

theorem validate_of_valid {top : Bool} {v : Value} (h : Valid top v) :
    validate top v = .ok v := by
  -- Along the rules: each branch of the validator rebuilds the array from what its parts give back.
  induction h with
  | @literal v scalar =>
      cases v with
      | array items => simp [Value.isArray] at scalar
      | _ => rfl
  | @function top name args _ ih =>
      show (do
        let args ← validateAll args
        return Value.array (.string "fun" :: .string name :: args)) = _
      rw [validateAll_eq_self ih]
      rfl
  | @method top target name args _ _ ihTarget ih =>
      show (do
        let target ← validate true target
        let args ← validateAll args
        return Value.array (.string "method" :: target :: .string name :: args)) = _
      rw [ihTarget, validateAll_eq_self ih]
      rfl
  | @list top items _ ih =>
      show (do
        let items ← validateAll items
        return Value.array (.string "list" :: items)) = _
      rw [validateAll_eq_self ih]
      rfl
  | @dict top members _ ih =>
      show (do
        let members ← validateMembers members
        return Value.array [.string "dict", .object members]) = _
      rw [validateMembers_eq_self ih]
      rfl
  | id => rfl

/-! ## What is given back was admitted -/

/-- A value that is no array stands for itself, but not at the top level. -/
theorem validate_of_not_array {v : Value} (scalar : v.isArray = false) (top : Bool) :
    validate top v = if top then .error (.topLevelLiteral v) else .ok v := by
  cases v with
  | array items => simp [Value.isArray] at scalar
  | _ => rfl

theorem valid_of_validate_scalar {top : Bool} {v w : Value} (scalar : v.isArray = false)
    (h : validate top v = .ok w) : Valid top v ∧ w = v := by
  rw [validate_of_not_array scalar] at h
  cases top with
  | true => cases h
  | false =>
      cases h
      exact ⟨.literal scalar, rfl⟩

mutual

/-- The walk of the validator, read backwards: each branch that gives a value back has asked for
exactly what one rule of the grammar asks for. -/
theorem valid_of_validate {top : Bool} {w : Value} :
    ∀ v : Value, validate top v = .ok w → Valid top v ∧ w = v
  | .array [], h => by
      rw [validate] at h
      cases h
  | .array (hd :: rest), h => by
      unfold validate at h
      split at h
      · cases h
      -- A function: a name, and whatever follows it.
      · next hi =>
          obtain rfl := indicator?_eq_some.1 hi
          split at h
          · cases h
          · next name args =>
              obtain ⟨args', hargs, hw⟩ := bind_eq_ok.1 h
              obtain ⟨valid, rfl⟩ := valid_of_validateAll args hargs
              exact ⟨.function valid, pure_eq_ok.1 hw⟩
          · cases h
      -- A method: a target in the place of a command, then a name.
      · next hi =>
          obtain rfl := indicator?_eq_some.1 hi
          split at h
          · cases h
          · cases h
          · next target name args =>
              obtain ⟨target', htarget, h₁⟩ := bind_eq_ok.1 h
              obtain ⟨args', hargs, hw⟩ := bind_eq_ok.1 h₁
              obtain ⟨receiver, rfl⟩ := valid_of_validate target htarget
              obtain ⟨valid, rfl⟩ := valid_of_validateAll args hargs
              exact ⟨.method receiver valid, pure_eq_ok.1 hw⟩
          · cases h
      -- A list.
      · next hi =>
          obtain rfl := indicator?_eq_some.1 hi
          obtain ⟨items', hitems, hw⟩ := bind_eq_ok.1 h
          obtain ⟨valid, rfl⟩ := valid_of_validateAll rest hitems
          exact ⟨.list valid, pure_eq_ok.1 hw⟩
      -- A dictionary: one object and nothing else.
      · next hi =>
          obtain rfl := indicator?_eq_some.1 hi
          split at h
          · next members =>
              obtain ⟨members', hmembers, hw⟩ := bind_eq_ok.1 h
              obtain ⟨valid, rfl⟩ := valid_of_validateMembers members hmembers
              exact ⟨.dict valid, pure_eq_ok.1 hw⟩
          · cases h
          · cases h
      -- A value passed through, which is not looked into.
      · next hi =>
          obtain rfl := indicator?_eq_some.1 hi
          split at h
          · cases h
            exact ⟨.id, rfl⟩
          · cases h
  | .null, h => valid_of_validate_scalar rfl h
  | .bool _, h => valid_of_validate_scalar rfl h
  | .number _, h => valid_of_validate_scalar rfl h
  | .string _, h => valid_of_validate_scalar rfl h
  | .object _, h => valid_of_validate_scalar rfl h

theorem valid_of_validateAll {ws : List Value} :
    ∀ vs : List Value, validateAll vs = .ok ws → (∀ v ∈ vs, Valid false v) ∧ ws = vs
  | [], h => by
      cases h
      simp
  | v :: vs, h => by
      rw [validateAll] at h
      obtain ⟨v', hv, h₁⟩ := bind_eq_ok.1 h
      obtain ⟨vs', hvs, hws⟩ := bind_eq_ok.1 h₁
      obtain ⟨valid, rfl⟩ := valid_of_validate v hv
      obtain ⟨valids, rfl⟩ := valid_of_validateAll vs hvs
      exact ⟨List.forall_mem_cons.2 ⟨valid, valids⟩, pure_eq_ok.1 hws⟩

theorem valid_of_validateMembers {bound : Option String} {ns : Members Value bound} :
    ∀ ms : Members Value bound, validateMembers ms = .ok ns →
      (∀ m ∈ ms.toList, Valid false m.2) ∧ ns = ms
  | .nil, h => by
      cases h
      simp [Members.toList]
  | .cons key above v rest, h => by
      rw [validateMembers] at h
      obtain ⟨v', hv, h₁⟩ := bind_eq_ok.1 h
      obtain ⟨rest', hrest, hns⟩ := bind_eq_ok.1 h₁
      obtain ⟨valid, rfl⟩ := valid_of_validate v hv
      obtain ⟨valids, rfl⟩ := valid_of_validateMembers rest hrest
      exact ⟨List.forall_mem_cons.2 ⟨valid, valids⟩, pure_eq_ok.1 hns⟩

end

/-! ## Validating is deciding the grammar -/

theorem validate_eq_ok {top : Bool} {v w : Value} :
    validate top v = .ok w ↔ Valid top v ∧ w = v := by
  constructor
  · exact valid_of_validate v
  · rintro ⟨h, rfl⟩
    exact validate_of_valid h

/-- **The validator accepts the grammar and alters nothing.** It succeeds on a JSON value exactly
when the grammar admits it, and then the answer is that value. -/
theorem check_json_accepts_grammar (top : Bool) (v : Value) :
    ((∃ w, check top (.json v) = .ok w) ↔ Valid top v)
      ∧ ∀ w, check top (.json v) = .ok w → w = v := by
  refine ⟨⟨?_, ?_⟩, ?_⟩
  · rintro ⟨w, h⟩
    exact (validate_eq_ok.1 h).1
  · intro h
    exact ⟨v, validate_eq_ok.2 ⟨h, rfl⟩⟩
  · intro w h
    exact (validate_eq_ok.1 h).2

/-! ## Commands from either source

A caller may hand over a tree of the builder in place of JSON. It is turned into JSON first, so a
batch is accepted when all of it turns into JSON that the grammar admits at the top level. -/

theorem check_eq_ok {top : Bool} {command : Command} {w : Value} :
    command.check top = .ok w ↔ command.toJson = .ok w ∧ Valid top w := by
  rw [check]
  cases command.toJson with
  | error uncalled => simp
  | ok v =>
      rw [validate_eq_ok, Except.ok.injEq]
      constructor
      · rintro ⟨h, rfl⟩
        exact ⟨rfl, h⟩
      · rintro ⟨rfl, h⟩
        exact ⟨h, rfl⟩

/-- **What validation makes of a batch**: the JSON of its commands, in their order. -/
theorem checkAll_eq_ok {top : Bool} {commands : List Command} {values : List Value} :
    checkAll top commands = .ok values
      ↔ commands.map toJson = values.map .ok ∧ ∀ v ∈ values, Valid top v := by
  induction commands generalizing values with
  | nil => cases values <;> simp [checkAll]
  | cons command commands ih =>
      rw [checkAll, bind_eq_ok]
      constructor
      · rintro ⟨v, hv, h⟩
        obtain ⟨vs, hvs, h⟩ := bind_eq_ok.1 h
        obtain rfl := pure_eq_ok.1 h
        obtain ⟨hjson, valid⟩ := check_eq_ok.1 hv
        obtain ⟨hjsons, valids⟩ := ih.1 hvs
        exact ⟨by rw [List.map_cons, List.map_cons, hjson, hjsons],
          List.forall_mem_cons.2 ⟨valid, valids⟩⟩
      · rintro ⟨hjson, valid⟩
        cases values with
        | nil => simp at hjson
        | cons v vs =>
            obtain ⟨hv, hvs⟩ := List.cons.inj hjson
            obtain ⟨valid, valids⟩ := List.forall_mem_cons.1 valid
            refine ⟨v, check_eq_ok.2 ⟨hv, valid⟩, ?_⟩
            rw [ih.2 ⟨hvs, valids⟩]
            rfl

end ViewLink.Command
