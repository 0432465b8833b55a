import ViewLink.Builder.Node
import ViewLink.Proofs.Except

/-!
# What the builder can say

Not every tree can be built. A reference translates the name it is given, so no alias is left in a
tree, and a call wraps the arrays among its arguments, so no array in it is taken for a command.
`Node.Made` holds of the trees that the interface gives out: it starts with the builder itself and
has a rule for each way to go on. A chain of calls is made by calling references, one after the
other. A tree also shows what is inside it, but all of that has been made before (`Node.Made.part`).

`Emitted` says which commands come out, without looking at trees. A list may hold anything. A call
has a name that is no alias, its target comes from a call as well, and an argument that is an array
comes from a tree of its own. The two agree (`reach_of_builder`): what a tree that is made turns into
is emitted, and for each emitted value there is a tree that turns into it.

## Main definitions

* `Node.Made` — a tree that the interface gives out, `Node.parts` — the trees inside a tree;
* `Emitted` — the commands of such trees, or of their calls alone.
-/

set_option autoImplicit false

namespace ViewLink.Builder

open Json (Value)

/-! ## Trees that can be built -/

/-- **A tree that the interface gives out.** An argument may be any JSON, and any tree that has been
made before. -/
inductive Node.Made : Node → Prop where
  /-- The builder before any call. -/
  | root : Made .root
  /-- A reference to a free function. -/
  | functionNamed (name : String) : Made (.functionNamed name)
  /-- A reference to a method of the result of a call. -/
  | reference {target : Call} (receiver : Made (.call target)) (name : String) :
      Made (target.reference name)
  /-- A call of what a reference refers to. -/
  | called {node : Node} {args : List Arg} {call : Call} (reference : Made node)
      (arguments : ∀ tree, .node tree ∈ args → Made tree) (calls : node.call? args = some call) :
      Made (.call call)
  /-- A list. -/
  | listOf {items : List Arg} (elements : ∀ tree, .node tree ∈ items → Made tree) :
      Made (.listOf items)

theorem Node.Made.callFunction (name : String) {args : List Arg}
    (arguments : ∀ tree, .node tree ∈ args → Made tree) : Made (.call (callFunction name args)) :=
  .called (.functionNamed name) arguments (Node.call?_functionNamed name args)

theorem Node.Made.callMethod {target : Call} (receiver : Made (.call target)) (name : String)
    {args : List Arg} (arguments : ∀ tree, .node tree ∈ args → Made tree) :
    Made (.call (target.callMethod name args)) :=
  .called (.reference receiver name) arguments (Call.call?_reference target name args)

/-! ## Taking trees apart -/

/-- The tree that an argument is. -/
def Arg.node? : Arg → Option Node
  | .json _ => none
  | .node tree => some tree

/-- **The trees that a tree holds**: the receiver of a method, and the nodes among the arguments or
items. -/
def Node.parts : Node → List Node
  | .root => []
  | .functionRef _ => []
  | .methodRef target _ => [.call target]
  | .call (.function _ args) => args.filterMap Arg.node?
  | .call (.method target _ args) => .call target :: args.filterMap Arg.node?
  | .list items => items.filterMap Arg.node?

theorem mem_filterMap_node? {args : List Arg} {tree : Node} :
    tree ∈ args.filterMap Arg.node? ↔ .node tree ∈ args := by
  rw [List.mem_filterMap]
  constructor
  · rintro ⟨arg, hmem, htree⟩
    cases arg with
    | json value => cases htree
    | node tree' =>
        obtain rfl := Option.some.inj htree
        exact hmem
  · intro hmem
    exact ⟨.node tree, hmem, rfl⟩

/-- A node among the arguments of a call was given to it, or is the list around an array. -/
theorem node_mem_quoteList {args : List Arg} {tree : Node}
    (hmem : .node tree ∈ args.map Arg.quoteList) :
    .node tree ∈ args ∨ ∃ items : List Value, tree = .listOf (items.map .json) := by
  obtain ⟨arg, harg, hquote⟩ := List.mem_map.1 hmem
  cases arg with
  | node tree' =>
      obtain rfl := Arg.node.inj hquote
      exact .inl harg
  | json value =>
      cases value with
      | array items => exact .inr ⟨items, (Arg.node.inj hquote).symm⟩
      | _ => cases hquote

/-- The lists around wrapped arrays hold JSON alone. -/
theorem Node.Made.of_quoteList {args : List Arg} (h : ∀ tree, .node tree ∈ args → Made tree)
    {tree : Node} (hmem : .node tree ∈ args.map Arg.quoteList) : Made tree := by
  rcases node_mem_quoteList hmem with hgiven | ⟨items, rfl⟩
  · exact h tree hgiven
  · exact .listOf (by simp)

/-- **A part of a tree has been made as well.** Nothing new can be made of trees that have been taken
apart. -/
theorem Node.Made.part {tree : Node} (h : tree.Made) : ∀ part ∈ tree.parts, part.Made := by
  -- Along the rules, as the receiver of a call is known from the reference that was called.
  induction h with
  | root => simp [Node.parts]
  | functionNamed name => simp [Node.functionNamed, Node.parts]
  | reference receiver name _ =>
      intro part hpart
      rw [List.mem_singleton.1 hpart]
      exact receiver
  | @called node args call _ arguments calls reference _ =>
      have hargs : ∀ part ∈ (args.map Arg.quoteList).filterMap Arg.node?, part.Made := by
        intro part hpart
        exact .of_quoteList arguments (mem_filterMap_node?.1 hpart)
      obtain ⟨name, rfl, rfl⟩ | ⟨target, name, rfl, rfl⟩ := Node.call?_cases calls
      · exact hargs
      · have receiver : Made (.call target) := reference _ (List.mem_singleton.2 rfl)
        exact List.forall_mem_cons.2 ⟨receiver, hargs⟩
  | listOf elements _ =>
      intro part hpart
      exact elements part (mem_filterMap_node?.1 hpart)

/-! ## Commands that come out -/

/-- **The commands that come out of trees.** The flag says whether the tree has to be a call. -/
inductive Emitted : Bool → Value → Prop where
  /-- A list, of any items. -/
  | list (items : List Value) : Emitted false (.array (.string "list" :: items))
  /-- A call of a function. -/
  | function {call : Bool} {name : String} {args : List Value} (proper : name ≠ "DOLLAR")
      (arguments : ∀ a ∈ args, a.isArray = true → Emitted false a) :
      Emitted call (.array (.string "fun" :: .string name :: args))
  /-- A call of a method. -/
  | method {call : Bool} {target : Value} {name : String} {args : List Value}
      (receiver : Emitted true target) (proper : name ≠ "DOLLAR")
      (arguments : ∀ a ∈ args, a.isArray = true → Emitted false a) :
      Emitted call (.array (.string "method" :: target :: .string name :: args))

theorem Emitted.of_call {v : Value} (h : Emitted true v) : Emitted false v := by
  cases h with
  | function proper arguments => exact .function proper arguments
  | method receiver proper arguments => exact .method receiver proper arguments

/-! ## Names -/

theorem translate_of_ne {name : String} (h : name ≠ "DOLLAR") : translate name = name := by
  have hlookup : aliases.lookup name = none := by
    have hne : (name == "DOLLAR") = false := beq_false_of_ne h
    rw [aliases, List.lookup_cons, hne]
    rfl
  rw [translate, hlookup, Option.getD_none]

/-- **A translated name is no alias.** -/
theorem translate_ne (name : String) : translate name ≠ "DOLLAR" := by
  by_cases h : name = "DOLLAR"
  · subst h
    decide
  · rw [translate_of_ne h]
    exact h

/-! ## What comes out is emitted -/

/-- **What is known of a tree that has been made**: what has become of its name, and what comes out
of the calls in it. -/
def Node.Proper : Node → Prop
  | .root => True
  | .functionRef name => name ≠ "DOLLAR"
  | .methodRef target name => (∀ v, target.command = .ok v → Emitted true v) ∧ name ≠ "DOLLAR"
  | .call made => ∀ v, made.command = .ok v → Emitted true v
  | .list _ => True

theorem Node.Proper.emitted {tree : Node} (h : tree.Proper) {v : Value}
    (built : tree.command = .ok v) : Emitted false v := by
  cases tree with
  | root => cases built
  | functionRef name => cases built
  | methodRef target name => cases built
  | call call => exact (h v built).of_call
  | list items =>
      obtain ⟨vs, -, hv⟩ := bind_eq_ok.1 built
      obtain rfl := pure_eq_ok.1 hv
      exact .list vs

/-- An array among the arguments is wrapped, and any other array is the command of a node. -/
theorem emitted_of_quoteList {arg : Arg} (h : ∀ tree, arg = .node tree → tree.Proper) {v : Value}
    (sent : arg.quoteList.command = .ok v) (harray : v.isArray = true) : Emitted false v := by
  cases arg with
  | node tree => exact (h tree rfl).emitted sent
  | json value =>
      cases value with
      | array items =>
          have hlist : (Node.listOf (items.map .json)).Proper := trivial
          exact hlist.emitted sent
      | _ =>
          cases sent
          cases harray

theorem emitted_of_commands {args : List Arg} (h : ∀ tree, .node tree ∈ args → tree.Proper)
    {vs : List Value} (sent : commands (args.map Arg.quoteList) = .ok vs) :
    ∀ v ∈ vs, v.isArray = true → Emitted false v := by
  induction args generalizing vs with
  | nil =>
      cases sent
      simp
  | cons arg args ih =>
      obtain ⟨v, hv, hrest⟩ := bind_eq_ok.1 sent
      obtain ⟨ws, hws, hvs⟩ := bind_eq_ok.1 hrest
      obtain rfl := pure_eq_ok.1 hvs
      have hfirst : v.isArray = true → Emitted false v :=
        emitted_of_quoteList (fun tree harg => h tree (by simp [harg])) hv
      have hlater := ih (fun tree hmem => h tree (List.mem_cons_of_mem _ hmem)) hws
      exact List.forall_mem_cons.2 ⟨hfirst, hlater⟩

/-- **Everything that is made is proper.** -/
theorem Node.Made.proper {tree : Node} (h : tree.Made) : tree.Proper := by
  -- Along the rules. Only a call of a reference has to say something about what comes out.
  induction h with
  | root => trivial
  | functionNamed name => exact translate_ne name
  | reference _ name receiver => exact ⟨receiver, translate_ne name⟩
  | @called node args call _ _ calls reference arguments =>
      intro v built
      obtain ⟨name, rfl, rfl⟩ | ⟨target, name, rfl, rfl⟩ := Node.call?_cases calls
      · obtain ⟨vs, hargs, hv⟩ := bind_eq_ok.1 built
        obtain rfl := pure_eq_ok.1 hv
        exact .function reference (emitted_of_commands arguments hargs)
      · obtain ⟨t, htarget, hrest⟩ := bind_eq_ok.1 built
        obtain ⟨vs, hargs, hv⟩ := bind_eq_ok.1 hrest
        obtain rfl := pure_eq_ok.1 hv
        obtain ⟨receiver, proper⟩ := reference
        exact .method (receiver t htarget) proper (emitted_of_commands arguments hargs)
  | listOf _ _ => trivial

/-! ## What is emitted can be built -/

theorem commands_map_json (vs : List Value) : commands (vs.map .json) = .ok vs := by
  induction vs with
  | nil => rfl
  | cons v vs ih =>
      rw [List.map_cons, commands, ih]
      rfl

/-- JSON stands for itself unless it is an array, and for an array there is a tree. -/
theorem exists_args {vs : List Value}
    (h : ∀ v ∈ vs, v.isArray = true → ∃ tree : Node, tree.Made ∧ tree.command = .ok v) :
    ∃ args : List Arg, (∀ tree, .node tree ∈ args → tree.Made)
      ∧ commands (args.map Arg.quoteList) = .ok vs := by
  induction vs with
  | nil => exact ⟨[], by simp, rfl⟩
  | cons v vs ih =>
      obtain ⟨hfirst, hlater⟩ := List.forall_mem_cons.1 h
      obtain ⟨args, hmade, hargs⟩ := ih hlater
      have harg : ∃ arg : Arg, (∀ tree, arg = .node tree → tree.Made)
          ∧ arg.quoteList.command = .ok v := by
        by_cases harray : v.isArray = true
        · obtain ⟨tree, htree, hcommand⟩ := hfirst harray
          refine ⟨.node tree, fun tree' heq => ?_, hcommand⟩
          cases heq
          exact htree
        · refine ⟨.json v, fun tree heq => (by cases heq), ?_⟩
          cases v with
          | array items => exact absurd rfl harray
          | _ => rfl
      obtain ⟨arg, hnode, hcommand⟩ := harg
      refine ⟨arg :: args, fun tree hmem => ?_, ?_⟩
      · rcases List.mem_cons.1 hmem with heq | hmem
        · exact hnode tree heq.symm
        · exact hmade tree hmem
      · rw [List.map_cons, commands, hcommand, hargs]
        rfl

theorem Emitted.exists_made {call : Bool} {v : Value} (h : Emitted call v) :
    ∃ tree : Node, tree.Made ∧ tree.command = .ok v
      ∧ (call = true → ∃ c, tree = .call c) := by
  induction h with
  | list items =>
      refine ⟨.listOf (items.map .json), .listOf (by simp), ?_, by simp⟩
      rw [Node.listOf, Node.command, commands_map_json]
      rfl
  | @function call name args proper _ arguments =>
      obtain ⟨as, hmade, hargs⟩ := exists_args fun a ha harray =>
        (arguments a ha harray).imp fun _ h => ⟨h.1, h.2.1⟩
      refine ⟨.call (callFunction name as), .callFunction name hmade, ?_, fun _ => ⟨_, rfl⟩⟩
      rw [callFunction, Node.command, Call.command, hargs, translate_of_ne proper]
      rfl
  | @method call target name args _ proper _ receiver arguments =>
      obtain ⟨tree, htree, htarget, hcall⟩ := receiver
      obtain ⟨t, rfl⟩ := hcall rfl
      obtain ⟨as, hmade, hargs⟩ := exists_args fun a ha harray =>
        (arguments a ha harray).imp fun _ h => ⟨h.1, h.2.1⟩
      refine ⟨.call (t.callMethod name as), .callMethod htree name hmade, ?_, fun _ => ⟨_, rfl⟩⟩
      have htarget : t.command = .ok target := htarget
      rw [Call.callMethod, Node.command, Call.command, htarget, hargs, translate_of_ne proper]
      rfl

/-- **The reach of the builder.** A value is the command of some tree, or of some call, exactly when
it is emitted. So a call never sends an alias for a name, and whatever array it sends as an argument
is a command that comes out of a tree. Trees may be taken apart in between, and nothing changes by
it. -/
theorem reach_of_builder (v : Value) :
    ((∃ tree : Node, tree.Made ∧ tree.command = .ok v) ↔ Emitted false v)
      ∧ ((∃ call : Call, (Node.call call).Made ∧ call.command = .ok v) ↔ Emitted true v)
      ∧ (∀ call : Call, (Node.call call).Made → call.command = .ok v →
          ∃ name args, (∀ entry ∈ aliases, name ≠ entry.1)
            ∧ (∀ a ∈ args, a.isArray = true → Emitted false a)
            ∧ (v = .array (.string "fun" :: .string name :: args)
              ∨ ∃ target, Emitted true target
                ∧ v = .array (.string "method" :: target :: .string name :: args)))
      ∧ ∀ tree : Node, tree.Made → ∀ part ∈ tree.parts, part.Made := by
  refine ⟨⟨?_, ?_⟩, ⟨?_, ?_⟩, ?_, fun tree made => made.part⟩
  · rintro ⟨tree, made, built⟩
    exact made.proper.emitted built
  · intro h
    obtain ⟨tree, made, built, -⟩ := h.exists_made
    exact ⟨tree, made, built⟩
  · rintro ⟨call, made, built⟩
    exact made.proper v built
  · intro h
    obtain ⟨tree, made, built, hcall⟩ := h.exists_made
    obtain ⟨call, rfl⟩ := hcall rfl
    exact ⟨call, made, built⟩
  · intro call made built
    have hno : ∀ name : String, name ≠ "DOLLAR" → ∀ entry ∈ aliases, name ≠ entry.1 := by
      intro name proper entry hentry
      rw [List.mem_singleton.1 hentry]
      exact proper
    cases made.proper v built with
    | function proper arguments => exact ⟨_, _, hno _ proper, arguments, .inl rfl⟩
    | method receiver proper arguments =>
        exact ⟨_, _, hno _ proper, arguments, .inr ⟨_, receiver, rfl⟩⟩

end ViewLink.Builder
