import ViewLink.Builder.Node
import ViewLink.Proofs.Except

/-!
# Chains of calls

A chain starts with a call of a free function, and each further link calls a method on the result of
the chain before it. The command grows to the left: what the chain has come to so far is the target
of the next link. So the command of a chain is a left fold over its links (`command_of_chain`).

A chain has a command only if everything in it has been called. The walk that turns a tree into JSON
ends at the first node that has not been. Here the two concerns are taken apart. `rendered` is the
JSON of a tree without a thought to what has been called, and `uncalled` lists the nodes that have
not been, in the order in which the walk comes to them. A tree's command is the first of the latter
or else the former (`Node.command_eq_outcome`), and both are easy to follow along a chain.

## Main definitions

* `Link`, `chain` — a chain of calls, `chainOfReferences` — the same by way of references;
* `Node.rendered`, `Node.uncalled` — what is sent and what stands against it;
* `Link.begun`, `Link.onto` — the command of the first link and of a later one.
-/

set_option autoImplicit false

namespace ViewLink.Builder

open Json (Value)

/-! ## Chains -/

/-- **A link of a chain.** -/
structure Link where
  /-- The name of a function or method, which may be an alias. -/
  name : String
  /-- Its arguments, which may be arrays. -/
  args : List Arg

/-- **A chain of calls**, from its first link on. -/
def chain (first : Link) (rest : List Link) : Call :=
  rest.foldl (fun call link => call.callMethod link.name link.args)
    (callFunction first.name first.args)

/-- The chain that comes of calling a reference for each link. -/
def chainOfReferences (first : Link) (rest : List Link) : Option Call :=
  ((Node.functionNamed first.name).call? first.args).bind fun call =>
    rest.foldlM (fun call link => (call.reference link.name).call? link.args) call

/-! ## What has not been called -/

mutual

/-- What has not been called in a call, the target before the arguments. -/
def Call.uncalled : Call → List Uncalled
  | .function _ args => uncalledIn args
  | .method target _ args => target.uncalled ++ uncalledIn args

/-- **What has not been called in a tree**, in the order of its command. A reference to a method is
met before anything in its target. -/
def Node.uncalled : Node → List Uncalled
  | .root => [.root]
  | .functionRef name => [.function name]
  | .methodRef target name => .method name :: target.uncalled
  | .call made => made.uncalled
  | .list items => uncalledIn items

/-- JSON is complete, and a node may not be. -/
def Arg.uncalled : Arg → List Uncalled
  | .json _ => []
  | .node tree => tree.uncalled

/-- What has not been called in several arguments, from left to right. -/
def uncalledIn : List Arg → List Uncalled
  | [] => []
  | arg :: args => arg.uncalled ++ uncalledIn args

end

/-! ## What is sent -/

mutual

/-- The JSON of a call. -/
def Call.rendered : Call → Value
  | .function name args => .array (.string "fun" :: .string name :: renderedArgs args)
  | .method target name args =>
    .array (.string "method" :: target.rendered :: .string name :: renderedArgs args)

/-- **The JSON of a tree**, with `null` in the place of what has not been called. -/
def Node.rendered : Node → Value
  | .root => .null
  | .functionRef _ => .null
  | .methodRef _ _ => .null
  | .call made => made.rendered
  | .list items => .array (.string "list" :: renderedArgs items)

/-- The JSON of an argument. -/
def Arg.rendered : Arg → Value
  | .json value => value
  | .node tree => tree.rendered

/-- The JSON of several arguments. -/
def renderedArgs : List Arg → List Value
  | [] => []
  | arg :: args => arg.rendered :: renderedArgs args

end

/-! ## A command is sent unless something stands against it -/

mutual

theorem Call.command_eq_outcome : ∀ call : Call, call.command = outcome call.uncalled call.rendered
  | .function name args => by
      calc (Call.function name args).command
          = (commands args >>= fun vs =>
              pure (.array (head .function :: .string name :: vs))) := rfl
        _ = outcome (uncalledIn args)
              (.array (head .function :: .string name :: renderedArgs args)) := by
            rw [commands_eq_outcome args, outcome_map]
  | .method target name args => by
      calc (Call.method target name args).command
          = (target.command >>= fun t => commands args >>= fun vs =>
              pure (.array (head .method :: t :: .string name :: vs))) := rfl
        _ = (outcome target.uncalled target.rendered >>= fun t => commands args >>= fun vs =>
              pure (.array (head .method :: t :: .string name :: vs))) := by
            rw [target.command_eq_outcome]
        _ = outcome (target.uncalled ++ uncalledIn args)
              (.array (head .method :: target.rendered :: .string name :: renderedArgs args)) := by
            refine outcome_bind ?_
            rw [commands_eq_outcome args, outcome_map]

/-- **The command of a tree is its JSON, or else the first node that has not been called.** -/
theorem Node.command_eq_outcome : ∀ tree : Node, tree.command = outcome tree.uncalled tree.rendered
  | .root => rfl
  | .functionRef _ => rfl
  | .methodRef _ _ => rfl
  | .call made => made.command_eq_outcome
  | .list items => by
      calc (Node.list items).command
          = (commands items >>= fun vs => pure (.array (head .list :: vs))) := rfl
        _ = outcome (uncalledIn items) (.array (head .list :: renderedArgs items)) := by
            rw [commands_eq_outcome items, outcome_map]

theorem Arg.command_eq_outcome : ∀ arg : Arg, arg.command = outcome arg.uncalled arg.rendered
  | .json _ => rfl
  | .node tree => tree.command_eq_outcome

theorem commands_eq_outcome : ∀ args : List Arg,
    commands args = outcome (uncalledIn args) (renderedArgs args)
  | [] => rfl
  | arg :: args => by
      rw [commands, arg.command_eq_outcome]
      refine outcome_bind ?_
      rw [commands_eq_outcome args, outcome_map, renderedArgs]

end

/-! ## Arguments as a call takes them -/

/-- **What is sent for an argument**: a list with the items of an array, any other JSON as it is,
and a tree as its command. -/
def Arg.sent : Arg → Value
  | .json (.array items) => .array (.string "list" :: items)
  | .json value => value
  | .node tree => tree.rendered

theorem renderedArgs_eq (args : List Arg) : renderedArgs args = args.map Arg.rendered := by
  induction args with
  | nil => rfl
  | cons arg args ih => rw [renderedArgs, ih, List.map_cons]

theorem uncalledIn_eq (args : List Arg) : uncalledIn args = args.flatMap Arg.uncalled := by
  induction args with
  | nil => rfl
  | cons arg args ih => rw [uncalledIn, ih, List.flatMap_cons]

theorem Arg.rendered_quoteList (arg : Arg) : arg.quoteList.rendered = arg.sent := by
  cases arg with
  | node tree => rfl
  | json value =>
      cases value with
      | array items =>
          have hitems : renderedArgs (items.map .json) = items := by
            rw [renderedArgs_eq, List.map_map]
            exact List.map_id _
          show Value.array (.string "list" :: renderedArgs (items.map .json)) = _
          rw [hitems]
          rfl
      | _ => rfl

theorem Arg.uncalled_quoteList (arg : Arg) : arg.quoteList.uncalled = arg.uncalled := by
  cases arg with
  | node tree => rfl
  | json value =>
      cases value with
      | array items =>
          show uncalledIn (items.map .json) = []
          rw [uncalledIn_eq, List.flatMap_map]
          simp [Arg.uncalled]
      | _ => rfl

theorem renderedArgs_quoteList (args : List Arg) :
    renderedArgs (args.map Arg.quoteList) = args.map Arg.sent := by
  rw [renderedArgs_eq, List.map_map]
  exact List.map_congr_left fun arg _ => arg.rendered_quoteList

theorem uncalledIn_quoteList (args : List Arg) :
    uncalledIn (args.map Arg.quoteList) = args.flatMap Arg.uncalled := by
  rw [uncalledIn_eq, List.flatMap_map]
  simp only [Arg.uncalled_quoteList]

/-! ## The command of a chain -/

namespace Link

/-- What has not been called in the arguments of a link. -/
def uncalled (link : Link) : List Uncalled := link.args.flatMap Arg.uncalled

/-- The command of a chain of this link alone. -/
def begun (link : Link) : Value :=
  .array (.string "fun" :: .string (translate link.name) :: link.args.map Arg.sent)

/-- The command of a chain that this link is added to. -/
def onto (target : Value) (link : Link) : Value :=
  .array (.string "method" :: target :: .string (translate link.name) :: link.args.map Arg.sent)

end Link

theorem Call.rendered_callFunction (link : Link) :
    (callFunction link.name link.args).rendered = link.begun := by
  rw [callFunction, Call.rendered, renderedArgs_quoteList]
  rfl

theorem Call.rendered_callMethod (call : Call) (link : Link) :
    (call.callMethod link.name link.args).rendered = link.onto call.rendered := by
  rw [Call.callMethod, Call.rendered, renderedArgs_quoteList]
  rfl

theorem Call.uncalled_callFunction (link : Link) :
    (callFunction link.name link.args).uncalled = link.uncalled := by
  rw [callFunction, Call.uncalled, uncalledIn_quoteList]
  rfl

theorem Call.uncalled_callMethod (call : Call) (link : Link) :
    (call.callMethod link.name link.args).uncalled = call.uncalled ++ link.uncalled := by
  rw [Call.callMethod, Call.uncalled, uncalledIn_quoteList]
  rfl

theorem rendered_chain (first : Link) (rest : List Link) :
    (chain first rest).rendered = rest.foldl Link.onto first.begun := by
  rw [chain, ← Call.rendered_callFunction]
  refine (List.foldl_hom Call.rendered ?_).symm
  intro call link
  exact (call.rendered_callMethod link).symm

theorem uncalled_chain (first : Link) (rest : List Link) :
    (chain first rest).uncalled = (first :: rest).flatMap Link.uncalled := by
  have hrest : (chain first rest).uncalled
      = rest.foldl (fun nodes link => nodes ++ link.uncalled) first.uncalled := by
    rw [chain, ← Call.uncalled_callFunction]
    refine (List.foldl_hom Call.uncalled ?_).symm
    intro call link
    exact (call.uncalled_callMethod link).symm
  rw [hrest, List.foldl_append_eq_append, List.flatMap_cons, List.flatMap_def]

/-- A reference to a function or method can always be called. -/
theorem chainOfReferences_eq (first : Link) (rest : List Link) :
    chainOfReferences first rest = some (chain first rest) := by
  rw [chainOfReferences, Node.call?_functionNamed, Option.bind_some, chain]
  simp only [Call.call?_reference]
  exact List.foldlM_pure

/-- **The command of a chain** is the left fold over its links, however the chain is put together. If
anything in it has not been called, it is the first such node instead: earlier links come before later
ones, and what is inside an argument comes in its place. -/
theorem command_of_chain (first : Link) (rest : List Link) :
    chainOfReferences first rest = some (chain first rest)
      ∧ (chain first rest).command
          = outcome ((first :: rest).flatMap Link.uncalled) (rest.foldl Link.onto first.begun)
      ∧ ∀ tree : Node, tree.command = outcome tree.uncalled tree.rendered := by
  refine ⟨chainOfReferences_eq first rest, ?_, Node.command_eq_outcome⟩
  rw [Call.command_eq_outcome, uncalled_chain, rendered_chain]

end ViewLink.Builder
