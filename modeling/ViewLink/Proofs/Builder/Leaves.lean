import ViewLink.Proofs.Command.Violations

/-!
# Trees and their leaves

A tree of the builder is made of two things: the structure that the builder adds, which are
indicators, names, targets and the lists around wrapped arrays, and the JSON that a caller has put
into it. This JSON are the leaves of the tree. They are listed in the order in which they appear in
the command, a target before the arguments.

The structure is grammatical by itself. So whether the command of a tree passes validation depends
on its leaves alone, and if it does not, the violation is the one of the first leaf that is not a
command (`check_node_by_leaves`). The argument lines up two recursions, one over the tree and one
over its JSON, and `verdict` is where they meet: it is what a walk along the leaves comes to, and it
composes like the parts of a tree do.

## Main definitions

* `Node.leaves` — the JSON that was put into a tree, in order;
* `verdict` — a value, unless one of these leaves is not a command.
-/

set_option autoImplicit false

namespace ViewLink.Builder

open Json (Value)

/-! ## Leaves -/

mutual

/-- The leaves of a call. -/
def Call.leaves : Call → List Value
  | .function _ args => leavesOf args
  | .method target _ args => target.leaves ++ leavesOf args

/-- **The leaves of a tree**, in the order of its command. -/
def Node.leaves : Node → List Value
  | .root => []
  | .functionRef _ => []
  | .methodRef target _ => target.leaves
  | .call call => call.leaves
  | .list items => leavesOf items

/-- JSON is a leaf, and of a node there are the leaves of its tree. -/
def Arg.leaves : Arg → List Value
  | .json value => [value]
  | .node node => node.leaves

/-- The leaves of several arguments, from left to right. -/
def leavesOf : List Arg → List Value
  | [] => []
  | arg :: args => arg.leaves ++ leavesOf args

end

theorem leavesOf_eq (args : List Arg) : leavesOf args = args.flatMap Arg.leaves := by
  induction args with
  | nil => rfl
  | cons arg args ih => rw [leavesOf, ih, List.flatMap_cons]

end ViewLink.Builder

namespace ViewLink.Command

open Json (Value)
open Builder (Call Node Arg commands leavesOf)

/-! ## The verdict on leaves -/

section
variable {α β : Type}

/-- **What comes of a value with these leaves**: the first violation that one of them is, and the
value if there is none. -/
def verdict : List Value → α → Except Violation α
  | [], a => .ok a
  | leaf :: leaves, a => validate false leaf >>= fun _ => verdict leaves a

/-- The verdict on leaves is what is wrong with them, one leaf after the other. -/
theorem verdict_eq_outcome (leaves : List Value) (a : α) :
    verdict leaves a = outcome (leaves.flatMap (violations false)) a := by
  induction leaves with
  | nil => rfl
  | cons leaf leaves ih =>
      rw [verdict, validate_eq_outcome, List.flatMap_cons]
      exact outcome_bind ih

theorem verdict_map (leaves : List Value) (a : α) (f : α → β) :
    (verdict leaves a >>= fun a => pure (f a)) = verdict leaves (f a) := by
  rw [verdict_eq_outcome, verdict_eq_outcome, outcome_map]

/-- **One part after the other has the leaves of the one and then of the other.** -/
theorem verdict_bind {xs ys : List Value} {a : α} {b : β} {f : α → Except Violation β}
    (h : f a = verdict ys b) : (verdict xs a >>= f) = verdict (xs ++ ys) b := by
  rw [verdict_eq_outcome, verdict_eq_outcome, List.flatMap_append]
  rw [verdict_eq_outcome] at h
  exact outcome_bind h

/-- A leaf by itself is given back by the validator. -/
theorem verdict_singleton (leaf : Value) : verdict [leaf] leaf = validate false leaf := by
  rw [verdict_eq_outcome, validate_eq_outcome, List.flatMap_singleton]

theorem verdict_of_valid {leaves : List Value} (h : ∀ leaf ∈ leaves, Valid false leaf) (a : α) :
    verdict leaves a = .ok a := by
  induction leaves with
  | nil => rfl
  | cons leaf leaves ih =>
      obtain ⟨hleaf, hleaves⟩ := List.forall_mem_cons.1 h
      have hvalidate : validate false leaf = .ok leaf := validate_of_valid hleaf
      rw [verdict, hvalidate, ok_bind]
      exact ih hleaves

/-- **The first leaf that is not a command decides.** -/
theorem verdict_of_invalid {leaves : List Value} (h : ∃ leaf ∈ leaves, ¬ Valid false leaf) (a : α) :
    ∃ before leaf after violation, leaves = before ++ leaf :: after
      ∧ (∀ l ∈ before, Valid false l)
      ∧ validate false leaf = .error violation ∧ verdict leaves a = .error violation := by
  -- Along the leaves: as long as they are commands they stand before the one that is looked for.
  induction leaves with
  | nil =>
      obtain ⟨leaf, hmem, -⟩ := h
      cases hmem
  | cons leaf leaves ih =>
      cases hleaf : validate false leaf with
      | error violation =>
          refine ⟨[], leaf, leaves, violation, rfl, by simp, hleaf, ?_⟩
          rw [verdict, hleaf]
          rfl
      | ok w =>
          have hvalid : Valid false leaf := (validate_eq_ok.1 hleaf).1
          have hlater : ∃ l ∈ leaves, ¬ Valid false l := by
            obtain ⟨l, hl, hinvalid⟩ := h
            rcases List.mem_cons.1 hl with rfl | hl
            · exact absurd hvalid hinvalid
            · exact ⟨l, hl, hinvalid⟩
          obtain ⟨before, l, after, violation, hsplit, hbefore, hl, hverdict⟩ := ih hlater
          refine ⟨leaf :: before, l, after, violation, by rw [hsplit, List.cons_append],
            List.forall_mem_cons.2 ⟨hvalid, hbefore⟩, hl, ?_⟩
          rw [verdict, hleaf, ok_bind]
          exact hverdict

end

/-! ## A tree is validated as its leaves are -/

mutual

/-- **The command of a call passes or fails as its leaves do**, at the top level or not. -/
theorem validate_call (top : Bool) : ∀ (call : Call) (v : Value), call.command = .ok v →
    validate top v = verdict call.leaves v
  | .function name args, v, h => by
      obtain ⟨vs, hargs, hv⟩ := bind_eq_ok.1 h
      obtain rfl := pure_eq_ok.1 hv
      calc validate top (.array (Builder.head .function :: .string name :: vs))
          = (validateAll vs >>= fun vs =>
              pure (.array (Builder.head .function :: .string name :: vs))) := rfl
        _ = verdict (leavesOf args) (.array (Builder.head .function :: .string name :: vs)) := by
            rw [validateAll_args args vs hargs, verdict_map]
  | .method target name args, v, h => by
      obtain ⟨t, htarget, h₁⟩ := bind_eq_ok.1 h
      obtain ⟨vs, hargs, hv⟩ := bind_eq_ok.1 h₁
      obtain rfl := pure_eq_ok.1 hv
      -- The target is checked as a command of its own, before the arguments.
      calc validate top (.array (Builder.head .method :: t :: .string name :: vs))
          = (validate true t >>= fun t => validateAll vs >>= fun vs =>
              pure (.array (Builder.head .method :: t :: .string name :: vs))) := rfl
        _ = (verdict target.leaves t >>= fun t => validateAll vs >>= fun vs =>
              pure (.array (Builder.head .method :: t :: .string name :: vs))) := by
            rw [validate_call true target t htarget]
        _ = verdict (target.leaves ++ leavesOf args)
              (.array (Builder.head .method :: t :: .string name :: vs)) := by
            refine verdict_bind ?_
            rw [validateAll_args args vs hargs, verdict_map]

theorem validate_node (top : Bool) : ∀ (tree : Node) (v : Value), tree.command = .ok v →
    validate top v = verdict tree.leaves v
  | .root, _, h => nomatch h
  | .functionRef _, _, h => nomatch h
  | .methodRef _ _, _, h => nomatch h
  | .call call, v, h => validate_call top call v h
  | .list items, v, h => by
      obtain ⟨vs, hitems, hv⟩ := bind_eq_ok.1 h
      obtain rfl := pure_eq_ok.1 hv
      calc validate top (.array (Builder.head .list :: vs))
          = (validateAll vs >>= fun vs => pure (.array (Builder.head .list :: vs))) := rfl
        _ = verdict (leavesOf items) (.array (Builder.head .list :: vs)) := by
            rw [validateAll_args items vs hitems, verdict_map]

theorem validate_arg : ∀ (arg : Arg) (v : Value), arg.command = .ok v →
    validate false v = verdict arg.leaves v
  | .json value, v, h => by
      obtain rfl : value = v := Except.ok.inj h
      exact (verdict_singleton value).symm
  | .node tree, v, h => validate_node false tree v h

theorem validateAll_args : ∀ (args : List Arg) (vs : List Value), commands args = .ok vs →
    validateAll vs = verdict (leavesOf args) vs
  | [], vs, h => by
      obtain rfl : [] = vs := Except.ok.inj h
      rfl
  | arg :: args, vs, h => by
      obtain ⟨w, harg, h₁⟩ := bind_eq_ok.1 h
      obtain ⟨ws, hargs, hvs⟩ := bind_eq_ok.1 h₁
      obtain rfl := pure_eq_ok.1 hvs
      calc validateAll (w :: ws)
          = (validate false w >>= fun w => validateAll ws >>= fun ws => pure (w :: ws)) := rfl
        _ = (verdict arg.leaves w >>= fun w => validateAll ws >>= fun ws => pure (w :: ws)) := by
            rw [validate_arg arg w harg]
        _ = verdict (arg.leaves ++ leavesOf args) (w :: ws) := by
            refine verdict_bind ?_
            rw [validateAll_args args ws hargs, verdict_map]

end

/-- **What the builder builds is grammatical but for the JSON placed in it.** The command of a tree
is given back unchanged if every leaf is a command in its place, and otherwise the violation is the
one of the first leaf that is not. Neither depends on where the tree itself stands. -/
theorem check_node_by_leaves (top : Bool) {tree : Node} {v : Value} (built : tree.command = .ok v) :
    ((∀ leaf ∈ tree.leaves, Valid false leaf) → check top (.node tree) = .ok v)
      ∧ ((∃ leaf ∈ tree.leaves, ¬ Valid false leaf) →
          ∃ before leaf after violation, tree.leaves = before ++ leaf :: after
            ∧ (∀ l ∈ before, Valid false l)
            ∧ check false (.json leaf) = .error violation
            ∧ check top (.node tree) = .error violation) := by
  have hcheck : check top (.node tree) = verdict tree.leaves v := by
    rw [check, toJson, built]
    exact validate_node top tree v built
  constructor
  · intro h
    rw [hcheck, verdict_of_valid h]
  · intro h
    obtain ⟨before, leaf, after, violation, hsplit, hbefore, hleaf, hverdict⟩ :=
      verdict_of_invalid h v
    exact ⟨before, leaf, after, violation, hsplit, hbefore, hleaf, hcheck.trans hverdict⟩

/-- A chain whose last call is given an array, which is wrapped, and a list. The item stands in the
middle of the array, and behind it there is an array that is no command either. -/
def chainAround (item : Value) : Node :=
  let start := Builder.callFunction "DOLLAR" [.json (.string "#j")]
  let items := Value.array [.ofNat 1, item, .array []]
  .call (start.callMethod "add" [.json items, .node (.listOf [.json .null])])

theorem check_chainAround :
    let bad := chainAround (.array [.string "zzz"])
    let good : Node := .call (Builder.callFunction "fit" [.json (.array [.null])])
    (∃ v, bad.command = .ok v)
      ∧ check true (.node bad) = .error (.unknownIndicator (.string "zzz"))
      ∧ (∃ before leaf after violation, bad.leaves = before ++ leaf :: after
          ∧ (∀ l ∈ before, Valid false l)
          ∧ check false (.json leaf) = .error violation
          ∧ check true (.node bad) = .error violation)
      ∧ ∃ v, good.command = .ok v ∧ check false (.node good) = .ok v := by
  intro bad good
  have hinvalid : ¬ Valid false (.array [.string "zzz"]) := by
    intro h
    have hvalidate := validate_of_valid h
    cases hvalidate
  have hmem : Value.array [.string "zzz"] ∈ bad.leaves := by
    have hleaves : bad.leaves
        = [.string "#j", .ofNat 1, .array [.string "zzz"], .array [], .null] := rfl
    rw [hleaves]
    simp
  have hbad : ∃ v, bad.command = .ok v := ⟨_, rfl⟩
  have hgood : ∃ v, good.command = .ok v := ⟨_, rfl⟩
  refine ⟨hbad, rfl, ?_, ?_⟩
  · obtain ⟨v, hv⟩ := hbad
    exact (check_node_by_leaves true hv).2 ⟨_, hmem, hinvalid⟩
  · obtain ⟨v, hv⟩ := hgood
    refine ⟨v, hv, (check_node_by_leaves false hv).1 ?_⟩
    intro leaf hleaf
    obtain rfl : leaf = .null := List.mem_singleton.1 hleaf
    exact .literal rfl

end ViewLink.Command
