import Relmap.Catalog.Basic
import Relmap.Query.FilterTree
import Relmap.Text.Cut

/-
  Prefetch trees: load requests for related rows.

  A request is bound at a path of relations. The tree keeps
  one entry per relation, in the order of first attachment;
  an entry may have a request of its own and entries for the
  relations of the related model.

  A tree is changed in place: the path is checked as a whole
  first, and then followed a second time through the tree,
  where missing entries are added on the way down.

  Key definitions include:
    * `LoadSpec`
    * `PrefetchEntry`
    * `PrefetchTree`
    * `PrefetchTree.paths`
    * `Catalog.reach`
    * `PrefetchTree.insert`
    * `Attachment`
    * `PrefetchTree.perform`
    * `PrefetchTree.attach`
    * `PrefetchTree.attachPath`
-/

------------------------------------------------------------
-- Trees
------------------------------------------------------------

namespace Relmap

/- What to load: a model, and which of its rows. -/
structure LoadSpec where
  model : String
  filter : Option FilterTree := none

/-
  The requests for one relation: the one for the related
  model itself, and those for relations of that model.
-/
structure PrefetchEntry where
  relation : String
  model : String
  terminal : Option LoadSpec
  nested : List PrefetchEntry

/- The requests for the relations of a model. -/
structure PrefetchTree where
  model : String
  entries : List PrefetchEntry

namespace PrefetchEntry

/- The requests for the related model as a tree. -/
def tree (entry : PrefetchEntry) : PrefetchTree :=
  ⟨entry.model, entry.nested⟩

/- An entry without requests. -/
def bare
    (relation : String)
    (model : String) : PrefetchEntry :=
  ⟨relation, model, none, []⟩

end PrefetchEntry

namespace PrefetchTree

/- The tree of a model without requests. -/
def ofModel (model : String) : PrefetchTree :=
  ⟨model, []⟩

/- No relation was attached. -/
def isEmpty (tree : PrefetchTree) : Bool :=
  tree.entries.isEmpty

/- The entry of a relation. -/
def get?
    (tree : PrefetchTree)
    (relation : String) : Option PrefetchEntry :=
  tree.entries.find? fun entry => entry.relation = relation

end PrefetchTree

end Relmap

------------------------------------------------------------
-- Paths
------------------------------------------------------------

namespace Relmap

namespace PrefetchTree

mutual

/- The paths with a request at or below an entry. -/
def pathsOfEntry : PrefetchEntry → List String
  | ⟨relation, _, terminal, nested⟩ =>
      (if terminal.isSome then [relation] else []) ++
        (pathsOfEntries nested).map fun rest =>
          relation ++ "__" ++ rest

def pathsOfEntries : List PrefetchEntry → List String
  | [] => []
  | entry :: rest =>
      pathsOfEntry entry ++ pathsOfEntries rest

end

/-
  Every path with a request: an entry before those below it,
  and siblings in the order of first attachment.
-/
def paths (tree : PrefetchTree) : List String :=
  pathsOfEntries tree.entries

end PrefetchTree

end Relmap

------------------------------------------------------------
-- Paths Of Relations
------------------------------------------------------------

namespace Relmap

namespace Catalog

/- Follow relations by name from a model. -/
def follow
    (catalog : Catalog)
    (model : Model) :
    List String → Except Error Model
  | [] => .ok model
  | segment :: rest =>
      match model.relation? segment with
      | none =>
          .error (.relationNotFound segment model.table)
      | some relation => do
          let target ← catalog.require relation.target
          catalog.follow target rest

/- The name of the model that a path leads to. -/
def reach
    (catalog : Catalog)
    (start : String)
    (path : String) : Except Error String := do
  let model ← catalog.require start
  let target ← catalog.follow model (Text.split path)
  return target.name

/- The name of the model that a relation leads to. -/
def targetOf
    (catalog : Catalog)
    (model : String)
    (relation : String) : Except Error String := do
  let source ← catalog.require model
  match source.relation? relation with
  | some found => return found.target
  | none =>
      throw (.reported .operational
        ("relation " ++ relation ++ " not found"))

end Catalog

end Relmap

------------------------------------------------------------
-- Changes In Place
------------------------------------------------------------

namespace Relmap

/-
  A change of something in place: how it ended, and what is
  there now. One that fails may have been made in part.
-/
structure Attempt (α : Type) where
  outcome : Except Error Unit
  left : α

namespace Attempt

variable {α β : Type}

/- A change of a part as one of the whole. -/
def map
    (wrap : α → β)
    (attempt : Attempt α) : Attempt β :=
  ⟨attempt.outcome, wrap attempt.left⟩

/- What a change makes, unless it fails. -/
def result (attempt : Attempt α) : Except Error α :=
  attempt.outcome.map fun _ => attempt.left

end Attempt

namespace PrefetchEntry

/-
  Change the entry of a relation, which is added without
  requests first if it is missing.
-/
def update
    (relation : String)
    (model : String)
    (change : PrefetchEntry → Attempt PrefetchEntry) :
    List PrefetchEntry → Attempt (List PrefetchEntry)
  | [] => (change (bare relation model)).map ([·])
  | entry :: rest =>
      if entry.relation = relation then
        (change entry).map (· :: rest)
      else (update relation model change rest).map (entry :: ·)

end PrefetchEntry

namespace PrefetchTree

/- Change the entry of a relation that the model has. -/
def change
    (tree : PrefetchTree)
    (catalog : Catalog)
    (relation : String)
    (step : PrefetchEntry → Attempt PrefetchEntry) :
    Attempt PrefetchTree :=
  match catalog.targetOf tree.model relation with
  | .error fault => ⟨.error fault, tree⟩
  | .ok target =>
      (PrefetchEntry.update relation target step
        tree.entries).map fun entries =>
          { tree with entries := entries }

/-
  Bind a request at a path. Each relation on the way is
  looked up in the catalog again.
-/
def insert
    (catalog : Catalog)
    (spec : LoadSpec)
    (path : String)
    (tree : PrefetchTree) : Attempt PrefetchTree :=
  match _hCut : Text.cutFirst? path with
  | none =>
      tree.change catalog path fun entry =>
        ⟨.ok (), { entry with terminal := some spec }⟩
  | some (head, rest) =>
      tree.change catalog head fun entry =>
        (insert catalog spec rest entry.tree).map fun nested =>
          { entry with nested := nested.entries }
  termination_by path.length
  decreasing_by exact Text.cutFirst?_length _hCut

end PrefetchTree

end Relmap

------------------------------------------------------------
-- Attachment
------------------------------------------------------------

namespace Relmap

/-
  A call to attach at a path: a request, or by default the
  one for all rows of the model that the path leads to.
-/
structure Attachment where
  path : String
  spec? : Option LoadSpec := none

namespace PrefetchTree

/-
  Attach in place. The request is bound instead of the one
  that is bound at the path, and must load the model that
  the path leads to.
-/
def perform
    (tree : PrefetchTree)
    (catalog : Catalog)
    (call : Attachment) : Attempt PrefetchTree :=
  match catalog.reach tree.model call.path with
  | .error fault => ⟨.error fault, tree⟩
  | .ok target =>
      match call.spec? with
      | none => insert catalog ⟨target, none⟩ call.path tree
      | some spec =>
          if spec.model = target then
            insert catalog spec call.path tree
          else
            ⟨.error (.loadMismatch call.path target spec.model),
              tree⟩

/- The tree with a request attached. -/
def attach
    (tree : PrefetchTree)
    (catalog : Catalog)
    (path : String)
    (spec : LoadSpec) : Except Error PrefetchTree :=
  (tree.perform catalog ⟨path, some spec⟩).result

/- The tree with the request for all rows attached. -/
def attachPath
    (tree : PrefetchTree)
    (catalog : Catalog)
    (path : String) : Except Error PrefetchTree :=
  (tree.perform catalog ⟨path, none⟩).result

end PrefetchTree

end Relmap
