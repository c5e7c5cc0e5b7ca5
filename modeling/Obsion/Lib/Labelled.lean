import Mathlib.Tactic

/-! # Trees with labelled arguments

A node has a kind and arguments under names; an argument is a text, a mark, a tree or a
list of trees.  The walk lists every node with the kind of its parent.  Replacing an
argument of the root adds no nodes but those of the new argument. -/

namespace Obsion.Lib

inductive Arg (α : Type)
  | absent
  | text (value : String)
  | flag (value : Bool)
  | one (value : α)
  | many (values : List α)

inductive Tree
  | node (kind : String) (args : List (String × Arg Tree))

namespace Tree

def kind : Tree → String
  | .node kind _ => kind

def args : Tree → List (String × Arg Tree)
  | .node _ args => args

def arg (tree : Tree) (key : String) : Arg Tree :=
  ((tree.args.find? fun entry => entry.1 = key).map Prod.snd).getD .absent

def set (tree : Tree) (key : String) (value : Arg Tree) : Tree :=
  .node tree.kind (if tree.args.any fun entry => entry.1 = key then
      tree.args.map fun entry => if entry.1 = key then (key, value) else entry
    else tree.args ++ [(key, value)])

mutual

/-- The tree and every tree below it, each with the kind of its parent. -/
def walk (parent : Option String) : Tree → List (Option String × Tree)
  | .node kind args => (parent, .node kind args) :: walkArgs kind args

def walkArgs (kind : String) : List (String × Arg Tree) → List (Option String × Tree)
  | [] => []
  | (_, value) :: rest => walkArg kind value ++ walkArgs kind rest

def walkArg (kind : String) : Arg Tree → List (Option String × Tree)
  | .one tree => walk (some kind) tree
  | .many trees => walkTrees kind trees
  | .absent => []
  | .text _ => []
  | .flag _ => []

def walkTrees (kind : String) : List Tree → List (Option String × Tree)
  | [] => []
  | tree :: rest => walk (some kind) tree ++ walkTrees kind rest

end

def nodes (tree : Tree) : List (Option String × Tree) := tree.walk none

def descendants (tree : Tree) : List (Option String × Tree) := walkArgs tree.kind tree.args

lemma nodes_eq (tree : Tree) : tree.nodes = (none, tree) :: tree.descendants := by
  cases tree with
  | node kind args => rfl

@[simp] lemma kind_set (tree : Tree) (key : String) (value : Arg Tree) :
    (tree.set key value).kind = tree.kind := rfl

variable {node : Option String × Tree} {key other : String}

lemma mem_walkArgs {kind : String} {args : List (String × Arg Tree)} :
    node ∈ walkArgs kind args ↔ ∃ entry ∈ args, node ∈ walkArg kind entry.2 := by
  induction args with
  | nil => simp [walkArgs]
  | cons entry rest ih =>
    obtain ⟨key, value⟩ := entry
    simp only [walkArgs, List.mem_append, ih, List.mem_cons, exists_eq_or_imp]

lemma mem_descendants_set {tree : Tree} {value : Arg Tree}
    (inside : node ∈ (tree.set key value).descendants) :
    node ∈ tree.descendants ∨ node ∈ walkArg tree.kind value := by
  obtain ⟨entry, mem, found⟩ := mem_walkArgs.1 inside
  change entry ∈ ite _ _ _ at mem
  change node ∈ walkArg tree.kind entry.2 at found
  split at mem
  · obtain ⟨old, stored, eq⟩ := List.mem_map.1 mem
    split at eq
    · subst eq
      exact .inr found
    subst eq
    exact .inl (mem_walkArgs.2 ⟨old, stored, found⟩)
  · rcases List.mem_append.1 mem with stored | new
    · exact .inl (mem_walkArgs.2 ⟨entry, stored, found⟩)
    rw [List.mem_singleton.1 new] at found
    exact .inr found

lemma find?_map_set {α : Type} (entries : List (String × α)) (value : α) (apart : other ≠ key) :
    ((entries.map fun entry => if entry.1 = key then (key, value) else entry).find? fun entry =>
      entry.1 = other) = entries.find? fun entry => entry.1 = other := by
  induction entries with
  | nil => rfl
  | cons entry rest ih =>
    rw [List.map_cons, List.find?_cons, List.find?_cons, ih]
    by_cases eq : entry.1 = key
    · rw [if_pos eq, decide_eq_false (Ne.symm apart), decide_eq_false (eq ▸ Ne.symm apart)]
    rw [if_neg eq]

lemma arg_set_self (tree : Tree) (key : String) (value : Arg Tree) :
    (tree.set key value).arg key = value := by
  unfold set arg
  change ((List.find? _ (ite _ _ _)).map Prod.snd).getD _ = value
  split
  · next present =>
    obtain ⟨entry, stored, eq⟩ := List.any_eq_true.1 present
    have found : ∀ entries : List (String × Arg Tree), entry ∈ entries →
        (entries.map fun entry => if entry.1 = key then (key, value) else entry).find?
          (fun entry => entry.1 = key) = some (key, value) := by
      intro entries mem
      induction entries with
      | nil => cases mem
      | cons first rest ih =>
        rw [List.map_cons, List.find?_cons]
        by_cases here : first.1 = key
        · rw [if_pos here, decide_eq_true rfl]
        rw [if_neg here, decide_eq_false here]
        rcases List.mem_cons.1 mem with rfl | later
        · exact absurd (of_decide_eq_true eq) here
        exact ih later
    rw [found tree.args stored]
    rfl
  · next missing =>
    have none_ : tree.args.find? (fun entry => entry.1 = key) = none := by
      rw [List.find?_eq_none]
      intro entry stored eq
      exact missing (List.any_eq_true.2 ⟨entry, stored, eq⟩)
    rw [List.find?_append, none_, Option.none_or, List.find?_singleton, decide_eq_true rfl]
    rfl

lemma arg_set_of_ne (tree : Tree) (value : Arg Tree) (apart : other ≠ key) :
    (tree.set key value).arg other = tree.arg other := by
  unfold set arg
  change ((List.find? _ (ite _ _ _)).map Prod.snd).getD _ = _
  split
  · rw [find?_map_set tree.args value apart]
  rw [List.find?_append, List.find?_singleton, decide_eq_false (Ne.symm apart)]
  change ((Option.or _ none).map Prod.snd).getD _ = _
  rw [Option.or_none]

end Tree

end Obsion.Lib
