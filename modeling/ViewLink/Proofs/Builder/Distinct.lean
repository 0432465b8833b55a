import ViewLink.Proofs.Builder.Chains
import ViewLink.Proofs.Builder.Leaves
import ViewLink.Proofs.Builder.Reach

/-!
# Different trees, different commands

One tree can be put together in several ways: by an alias or by the name it stands for, from an array
that gets wrapped or from the list that comes of it, as a chain or by way of references. Its command
does not show which way it was. It does show the tree, with one exception. A list leaves its items
alone, so an array among them is sent as it is, and it may look just like the command of a node
(`command_listOf_json`). A call wraps the arrays among its arguments, so the exception concerns lists
only.

Where no list holds an array, trees with the same command are the same (`command_determines_tree`).
For this two trees are walked side by side. An argument sends an array exactly if it is a node, and
the indicator in the array says which kind of node it is.

Values can be the same in two ways, since floats that are equal as numbers need not be the same value.
So the walk shows two things at each place: what sends equal JSON is equal, and `same` answers for
trees what it answers for their JSON.

## Main definitions

* `Node.listItems` — the items of all lists in a tree;
* `Node.Wrapped` — arrays are items of lists and nothing else;
* `Clear` — a tree that can be told by its JSON.
-/

set_option autoImplicit false

namespace ViewLink.Builder

open Json (Value)
open Command (Indicator)

/-! ## The items of lists -/

mutual

/-- The items of all lists in a call. -/
def Call.listItems : Call → List Arg
  | .function _ args => listItemsIn args
  | .method target _ args => target.listItems ++ listItemsIn args

/-- **The items of all lists in a tree**, at any depth. The arrays that calls have wrapped are lists
by now. -/
def Node.listItems : Node → List Arg
  | .root => []
  | .functionRef _ => []
  | .methodRef target _ => target.listItems
  | .call made => made.listItems
  | .list items => items ++ listItemsIn items

/-- The items of all lists in an argument. -/
def Arg.listItems : Arg → List Arg
  | .json _ => []
  | .node tree => tree.listItems

/-- The items of all lists in several arguments. -/
def listItemsIn : List Arg → List Arg
  | [] => []
  | arg :: args => arg.listItems ++ listItemsIn args

end

theorem listItemsIn_eq (args : List Arg) : listItemsIn args = args.flatMap Arg.listItems := by
  induction args with
  | nil => rfl
  | cons arg args ih => rw [listItemsIn, ih, List.flatMap_cons]

/-- Whether the argument is an array of JSON. -/
def Arg.isArray : Arg → Bool
  | .json value => value.isArray
  | .node _ => false

/-- **In a list the command of a tree may stand for the tree.** An array is a list's item as it is, so
what the list sends does not show whether a node was there. -/
theorem command_listOf_json {tree : Node} {v : Value} (sent : tree.command = .ok v) :
    (Node.listOf [.json v]).command = (Node.listOf [.node tree]).command := by
  simp only [Node.listOf, Node.command, commands, Arg.command, sent]

/-! ## Where arrays are -/

/-- **Arrays are items of lists**: no call in the tree has one for an argument. -/
def Node.Wrapped (tree : Node) : Prop :=
  ∀ leaf ∈ tree.leaves, leaf.isArray = true → .json leaf ∈ tree.listItems

/-- An array in arguments is one of them, or the item of a list in one of them. -/
theorem mem_of_mem_leavesOf {args : List Arg} (h : ∀ tree, .node tree ∈ args → tree.Wrapped)
    {leaf : Value} (hleaf : leaf ∈ leavesOf args) (harray : leaf.isArray = true) :
    .json leaf ∈ args ∨ .json leaf ∈ listItemsIn args := by
  rw [leavesOf_eq] at hleaf
  obtain ⟨arg, harg, hleaf⟩ := List.mem_flatMap.1 hleaf
  cases arg with
  | json value =>
      obtain rfl := List.mem_singleton.1 hleaf
      exact .inl harg
  | node tree =>
      have hitem : .json leaf ∈ tree.listItems := h tree harg leaf hleaf harray
      rw [listItemsIn_eq]
      exact .inr (List.mem_flatMap.2 ⟨.node tree, harg, hitem⟩)

theorem wrapped_listOf {items : List Arg} (h : ∀ tree, .node tree ∈ items → tree.Wrapped) :
    (Node.listOf items).Wrapped := by
  intro leaf hleaf harray
  exact List.mem_append.2 (mem_of_mem_leavesOf h hleaf harray)

theorem Arg.quoteList_ne_json {leaf : Value} (harray : leaf.isArray = true) (arg : Arg) :
    arg.quoteList ≠ .json leaf := by
  intro h
  cases arg with
  | node tree => cases h
  | json value =>
      cases value <;> cases h <;> cases harray

/-- The arguments of a call hold arrays in lists only. -/
theorem mem_listItemsIn_quoteList {args : List Arg}
    (h : ∀ tree, .node tree ∈ args → tree.Wrapped) {leaf : Value}
    (hleaf : leaf ∈ leavesOf (args.map Arg.quoteList)) (harray : leaf.isArray = true) :
    .json leaf ∈ listItemsIn (args.map Arg.quoteList) := by
  have hquoted : ∀ tree, .node tree ∈ args.map Arg.quoteList → tree.Wrapped := by
    intro tree hmem
    rcases node_mem_quoteList hmem with hmem | ⟨items, rfl⟩
    · exact h tree hmem
    · exact wrapped_listOf (by simp)
  rcases mem_of_mem_leavesOf hquoted hleaf harray with hmem | hitem
  · obtain ⟨arg, -, harg⟩ := List.mem_map.1 hmem
    exact absurd harg (arg.quoteList_ne_json harray)
  · exact hitem

/-- **In a tree that has been made only lists hold arrays.** -/
theorem Node.Made.wrapped {tree : Node} (h : tree.Made) : tree.Wrapped := by
  -- Along the rules, as only there is it known that a call has quoted its arguments.
  induction h with
  | root => simp [Wrapped, Node.leaves]
  | functionNamed name => simp [Wrapped, Node.functionNamed, Node.leaves]
  | reference _ name receiver => exact receiver
  | @called node args call _ _ calls reference arguments =>
      intro leaf hleaf harray
      obtain ⟨name, rfl, rfl⟩ | ⟨target, name, rfl, rfl⟩ := Node.call?_cases calls
      · exact mem_listItemsIn_quoteList arguments hleaf harray
      · rcases List.mem_append.1 hleaf with htarget | hargs
        · exact List.mem_append_left _ (reference leaf htarget harray)
        · exact List.mem_append_right _ (mem_listItemsIn_quoteList arguments hargs harray)
  | listOf _ elements => exact wrapped_listOf elements

/-! ## Commands that differ at the front -/

/-- Arrays with different indicators are neither equal nor the same. -/
theorem apart_of_head {p : Prop} {i j : Indicator} (h : i ≠ j) (vs ws : List Value) :
    (Value.array (head i :: vs) = .array (head j :: ws) → p)
      ∧ false = (Value.array (head i :: vs)).same (.array (head j :: ws)) := by
  have hword : i.word ≠ j.word := fun heq => h (Indicator.word_inj heq)
  constructor
  · intro heq
    injection heq with heq
    injection heq with heq _
    injection heq with heq
    exact absurd heq hword
  · have hbeq : (i.word == j.word) = false := beq_false_of_ne hword
    simp [Value.same, Value.sameItems, head, hbeq]

/-- An array and any other value are neither equal nor the same. -/
theorem apart_of_isArray {p : Prop} {v w : Value} (h : v.isArray ≠ w.isArray) :
    (v = w → p) ∧ false = v.same w := by
  constructor
  · rintro rfl
    exact absurd rfl h
  · cases v <;> cases w <;> simp_all [Value.isArray, Value.same]

theorem Call.exists_head (made : Call) :
    ∃ i vs, i ≠ Indicator.list ∧ made.rendered = .array (head i :: vs) := by
  cases made with
  | function name args => exact ⟨.function, _, by decide, rfl⟩
  | method target name args => exact ⟨.method, _, by decide, rfl⟩

theorem Node.isArray_rendered {tree : Node} (h : tree.uncalled = []) :
    tree.rendered.isArray = true := by
  cases tree with
  | root => cases h
  | functionRef name => cases h
  | methodRef target name => cases h
  | call made =>
      obtain ⟨i, vs, -, hrendered⟩ := made.exists_head
      rw [Node.rendered, hrendered]
      rfl
  | list items => rfl

/-! ## Two trees side by side -/

/-- **A tree can be told by its JSON** if this has not been called in it and these are its leaves. -/
structure Clear (uncalled : List Uncalled) (leaves : List Value) : Prop where
  /-- Everything has been called, so the JSON is all there. -/
  called : uncalled = []
  /-- No leaf is an array, which could be taken for the command of a node. -/
  bare : ∀ leaf ∈ leaves, leaf.isArray = false

theorem Clear.split {xs ys : List Uncalled} {vs ws : List Value} (h : Clear (xs ++ ys) (vs ++ ws)) :
    Clear xs vs ∧ Clear ys ws := by
  obtain ⟨hxs, hys⟩ := List.append_eq_nil_iff.1 h.called
  obtain ⟨hvs, hws⟩ := List.forall_mem_append.1 h.bare
  exact ⟨⟨hxs, hvs⟩, ⟨hys, hws⟩⟩

/-! The induction is on both trees at once. Of two trees that differ in kind nothing is compared below
the indicator, and all others have the same parts, which are compared one by one. -/

mutual

/-- Calls are told apart by their JSON. -/
theorem Call.told_apart : ∀ c c' : Call, Clear c.uncalled c.leaves → Clear c'.uncalled c'.leaves →
    (c.rendered = c'.rendered → c = c') ∧ c.same c' = c.rendered.same c'.rendered
  | .function name args, .function name' args', h, h' => by
      obtain ⟨heq, hsame⟩ := args_told_apart args args' h h'
      refine ⟨fun hsent => ?_, ?_⟩
      · obtain ⟨rfl, hargs⟩ : name = name' ∧ renderedArgs args = renderedArgs args' := by
          simpa [Call.rendered] using hsent
        rw [heq hargs]
      · simp [Call.same, Call.rendered, Value.same, Value.sameItems, hsame]
  | .function name args, .method target' name' args', _, _ => by
      -- The indicators differ, whatever comes behind them.
      have hsame : (Call.function name args).same (.method target' name' args') = false := by
        simp only [Call.same]
      rw [hsame]
      exact apart_of_head (by decide : Indicator.function ≠ .method) _ _
  | .method target name args, .function name' args', _, _ => by
      have hsame : (Call.method target name args).same (.function name' args') = false := by
        simp only [Call.same]
      rw [hsame]
      exact apart_of_head (by decide : Indicator.method ≠ .function) _ _
  | .method target name args, .method target' name' args', h, h' => by
      obtain ⟨htarget, hargs⟩ := h.split
      obtain ⟨htarget', hargs'⟩ := h'.split
      obtain ⟨heqTarget, hsameTarget⟩ := target.told_apart target' htarget htarget'
      obtain ⟨heq, hsame⟩ := args_told_apart args args' hargs hargs'
      refine ⟨fun hsent => ?_, ?_⟩
      · obtain ⟨hsentTarget, rfl, hsentArgs⟩ : target.rendered = target'.rendered
            ∧ name = name' ∧ renderedArgs args = renderedArgs args' := by
          simpa [Call.rendered] using hsent
        rw [heqTarget hsentTarget, heq hsentArgs]
      · simp [Call.same, Call.rendered, Value.same, Value.sameItems, hsameTarget, hsame,
          Bool.and_assoc]

/-- **Trees are told apart by their JSON**: they are equal if it is, and the same exactly if it is. -/
theorem Node.told_apart : ∀ t t' : Node, Clear t.uncalled t.leaves → Clear t'.uncalled t'.leaves →
    (t.rendered = t'.rendered → t = t') ∧ t.same t' = t.rendered.same t'.rendered
  | .root, _, h, _ => nomatch h.called
  | .functionRef _, _, h, _ => nomatch h.called
  | .methodRef _ _, _, h, _ => nomatch h.called
  | _, .root, _, h' => nomatch h'.called
  | _, .functionRef _, _, h' => nomatch h'.called
  | _, .methodRef _ _, _, h' => nomatch h'.called
  | .call made, .call made', h, h' => by
      obtain ⟨heq, hsame⟩ := made.told_apart made' h h'
      refine ⟨fun hsent => congrArg Node.call (heq hsent), ?_⟩
      rw [Node.same, hsame, Node.rendered, Node.rendered]
  | .call made, .list items, _, _ => by
      obtain ⟨i, vs, hi, hrendered⟩ := made.exists_head
      have hsame : (Node.call made).same (.list items) = false := by simp only [Node.same]
      rw [hsame, Node.rendered, hrendered]
      exact apart_of_head hi _ _
  | .list items, .call made, _, _ => by
      obtain ⟨i, vs, hi, hrendered⟩ := made.exists_head
      have hsame : (Node.list items).same (.call made) = false := by simp only [Node.same]
      rw [hsame, Node.rendered, Node.rendered, hrendered]
      exact apart_of_head hi.symm _ _
  | .list items, .list items', h, h' => by
      obtain ⟨heq, hsame⟩ := args_told_apart items items' h h'
      refine ⟨fun hsent => ?_, ?_⟩
      · have hitems : renderedArgs items = renderedArgs items' := by
          simpa [Node.rendered] using hsent
        rw [heq hitems]
      · simp [Node.same, Node.rendered, Value.same, Value.sameItems, hsame]

/-- Arguments are told apart by their JSON, which is an array for a node alone. -/
theorem Arg.told_apart : ∀ a a' : Arg, Clear a.uncalled a.leaves → Clear a'.uncalled a'.leaves →
    (a.rendered = a'.rendered → a = a') ∧ a.same a' = a.rendered.same a'.rendered
  | .json value, .json value', _, _ => by
      refine ⟨fun hsent => congrArg Arg.json hsent, ?_⟩
      rw [Arg.same, Arg.rendered, Arg.rendered]
  | .json value, .node tree, h, h' => by
      -- Here it matters that no leaf is an array, as the JSON of a node always is one.
      have hvalue : value.isArray = false := h.bare value (List.mem_singleton.2 rfl)
      have htree : tree.rendered.isArray = true := Node.isArray_rendered h'.called
      have hsame : (Arg.json value).same (.node tree) = false := by simp only [Arg.same]
      rw [hsame, Arg.rendered, Arg.rendered]
      exact apart_of_isArray (by simp [hvalue, htree])
  | .node tree, .json value, h, h' => by
      have htree : tree.rendered.isArray = true := Node.isArray_rendered h.called
      have hvalue : value.isArray = false := h'.bare value (List.mem_singleton.2 rfl)
      have hsame : (Arg.node tree).same (.json value) = false := by simp only [Arg.same]
      rw [hsame, Arg.rendered, Arg.rendered]
      exact apart_of_isArray (by simp [hvalue, htree])
  | .node tree, .node tree', h, h' => by
      obtain ⟨heq, hsame⟩ := tree.told_apart tree' h h'
      refine ⟨fun hsent => congrArg Arg.node (heq hsent), ?_⟩
      rw [Arg.same, hsame, Arg.rendered, Arg.rendered]

/-- Arguments are told apart one by one. -/
theorem args_told_apart : ∀ as as' : List Arg,
    Clear (uncalledIn as) (leavesOf as) → Clear (uncalledIn as') (leavesOf as') →
    (renderedArgs as = renderedArgs as' → as = as')
      ∧ sameArgs as as' = Value.sameItems (renderedArgs as) (renderedArgs as')
  | [], [], _, _ => by simp [sameArgs, renderedArgs, Value.sameItems]
  | [], _ :: _, _, _ => by simp [sameArgs, renderedArgs, Value.sameItems]
  | _ :: _, [], _, _ => by simp [sameArgs, renderedArgs, Value.sameItems]
  | arg :: args, arg' :: args', h, h' => by
      obtain ⟨harg, hargs⟩ := h.split
      obtain ⟨harg', hargs'⟩ := h'.split
      obtain ⟨heqArg, hsameArg⟩ := arg.told_apart arg' harg harg'
      obtain ⟨heq, hsame⟩ := args_told_apart args args' hargs hargs'
      refine ⟨fun hsent => ?_, ?_⟩
      · obtain ⟨hsentArg, hsentArgs⟩ := List.cons.inj hsent
        rw [heqArg hsentArg, heq hsentArgs]
      · rw [sameArgs, renderedArgs, renderedArgs, Value.sameItems, hsameArg, hsame]

end

/-! ## The tree of a command -/

/-- A tree that has been made and has a command is clear, if no list in it holds an array. -/
theorem Node.Made.clear {tree : Node} (made : tree.Made)
    (bare : ∀ item ∈ tree.listItems, item.isArray = false) {v : Value}
    (sent : tree.command = .ok v) : Clear tree.uncalled tree.leaves ∧ v = tree.rendered := by
  rw [tree.command_eq_outcome] at sent
  obtain ⟨hcalled, hv⟩ := outcome_eq_ok.1 sent
  refine ⟨⟨hcalled, fun leaf hleaf => ?_⟩, hv⟩
  by_cases harray : leaf.isArray = true
  · exact bare (.json leaf) (made.wrapped leaf hleaf harray)
  · exact Bool.eq_false_iff.2 harray

/-- **A command determines its tree**, unless a list in the tree holds an array. Trees that send equal
values are equal, down to the JSON in them. If floats are compared as numbers, two trees are the same
exactly if what they send is. -/
theorem command_determines_tree {tree tree' : Node} (made : tree.Made) (made' : tree'.Made)
    (bare : ∀ item ∈ tree.listItems, item.isArray = false)
    (bare' : ∀ item ∈ tree'.listItems, item.isArray = false) {v v' : Value}
    (sent : tree.command = .ok v) (sent' : tree'.command = .ok v') :
    (v = v' → tree = tree') ∧ tree.same tree' = v.same v' := by
  obtain ⟨hclear, rfl⟩ := made.clear bare sent
  obtain ⟨hclear', rfl⟩ := made'.clear bare' sent'
  exact tree.told_apart tree' hclear hclear'

/-- A chain by an alias, whose last call is given a number in an array and a call. -/
def wrappedAround (x : Float) : Node :=
  let start := callFunction "DOLLAR" [.json (.string "#j")]
  .call (start.callMethod "add"
    [.json (.array [.number (.float x)]), .node (.call (callFunction "fit" []))])

/-- The same chain by the proper name, with a list for the array. -/
def listedAround (x : Float) : Node :=
  let start := callFunction "$" [.json (.string "#j")]
  .call (start.callMethod "add"
    [.node (.listOf [.json (.number (.float x))]), .node (.call (callFunction "fit" []))])

theorem made_wrappedAround (x : Float) : (wrappedAround x).Made := by
  refine .callMethod (.callFunction _ (by simp)) _ fun tree hmem => ?_
  obtain rfl : tree = .call (callFunction "fit" []) := by simpa using hmem
  exact .callFunction _ (by simp)

theorem made_listedAround (x : Float) : (listedAround x).Made := by
  refine .callMethod (.callFunction _ (by simp)) _ fun tree hmem => ?_
  have htree : tree = .listOf [.json (.number (.float x))]
      ∨ tree = .call (callFunction "fit" []) := by simpa using hmem
  rcases htree with rfl | rfl
  · exact .listOf (by simp)
  · exact .callFunction _ (by simp)

/-- However they are put together, these trees are equal for one zero and the same for both. -/
theorem tree_of_zeros :
    (∀ tree ∈ [wrappedAround 0.0, listedAround 0.0, listedAround (-0.0)],
        tree.Made ∧ (∀ item ∈ tree.listItems, item.isArray = false) ∧ ∃ v, tree.command = .ok v)
      ∧ wrappedAround 0.0 = listedAround 0.0
      ∧ (wrappedAround 0.0).same (listedAround (-0.0)) = true := by
  have hwrapped : ∀ item ∈ (wrappedAround 0.0).listItems, item.isArray = false := by decide
  have hlisted : ∀ item ∈ (listedAround 0.0).listItems, item.isArray = false := by decide
  have hnegative : ∀ item ∈ (listedAround (-0.0)).listItems, item.isArray = false := by decide
  have heq := (command_determines_tree (made_wrappedAround 0.0) (made_listedAround 0.0)
    hwrapped hlisted rfl rfl).1
  have hsame := (command_determines_tree (made_wrappedAround 0.0) (made_listedAround (-0.0))
    hwrapped hnegative rfl rfl).2
  refine ⟨?_, heq rfl, ?_⟩
  · simp only [List.forall_mem_cons]
    exact ⟨⟨made_wrappedAround 0.0, hwrapped, _, rfl⟩, ⟨made_listedAround 0.0, hlisted, _, rfl⟩,
      ⟨made_listedAround (-0.0), hnegative, _, rfl⟩, by simp⟩
  · rw [hsame]
    decide

end ViewLink.Builder
