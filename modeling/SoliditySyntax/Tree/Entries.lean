import SoliditySyntax.Tree.Basic

/-!
# Trees as flat lists of entries

A syntax tree can be handed over as a list with one entry for each node, in
document order, where an entry names its parent by its position in the list.
This file reads such a list as a tree and lists the entries of a tree.

The list is read from its end.  What has been read so far is a row of finished
trees, each still with the position of the parent that it waits for, and an
entry takes from the front of the row the trees that wait for it.  A list is
the form of a tree when one tree is left in the end and waits for no parent;
an entry that names a parent in the wrong place is never taken up.

Reading and listing are inverse: a list of entries is read as a tree exactly
when it is the flat form of that tree, so nothing that is not a flat form is
accepted, and every tree can be handed over as a list.  One direction needs no
condition at all: whatever the list, the row of finished trees that is read
from it has the list as its flat form.  For the other, a tree is read back in
front of any further entries whose row does not begin with a tree that waits
for an entry of the first tree.
-/

namespace SoliditySyntax

/-- One node of a flat list: the position of its parent, and its label. -/
structure Entry where
  parent? : Option Nat
  label : Label
deriving DecidableEq

/-- A finished tree together with the position of the parent that it waits for. -/
structure Waiting where
  parent? : Option Nat
  tree : Tree

namespace Tree

/-- Whether a finished tree waits for the entry at a position. -/
def waitsFor (position : Nat) (waiting : Waiting) : Bool :=
  waiting.parent? == some position

/-- Give an entry the trees at the front of the row that wait for it. -/
def takeUp (position : Nat) (entry : Entry) (row : List Waiting) : List Waiting :=
  ⟨entry.parent?, .node entry.label ((row.takeWhile (waitsFor position)).map (·.tree))⟩ ::
    row.dropWhile (waitsFor position)

/-- The row of finished trees of a list of entries, the first of them at a position. -/
def rowOfEntries (position : Nat) : List Entry → List Waiting
  | [] => []
  | entry :: later => takeUp position entry (rowOfEntries (position + 1) later)

/-- The tree whose flat form a list of entries is. -/
def ofEntries? (entries : List Entry) : Option Tree :=
  match rowOfEntries 0 entries with
  | [⟨none, tree⟩] => some tree
  | _ => none

mutual

/-- The flat form of a tree below a given parent, its topmost node at a position. -/
def entriesFrom (parent? : Option Nat) (position : Nat) : Tree → List Entry
  | .node label children => ⟨parent?, label⟩ :: entriesOfAll position (position + 1) children

/-- The flat form of several trees below the node at `parent`, the first of them at a position. -/
def entriesOfAll (parent position : Nat) : List Tree → List Entry
  | [] => []
  | tree :: later =>
      tree.entriesFrom (some parent) position ++
        entriesOfAll parent (position + tree.size) later

end

/-- The flat form of a whole tree. -/
def entries (tree : Tree) : List Entry :=
  tree.entriesFrom none 0

/-! ## Reading and listing are inverse -/

/-- The flat form of a row of trees, each below the parent that it waits for. -/
def entriesOfRow (position : Nat) : List Waiting → List Entry
  | [] => []
  | waiting :: later =>
      waiting.tree.entriesFrom waiting.parent? position ++
        entriesOfRow (position + waiting.tree.size) later

/-- The trees at the front of a row that wait for one entry are listed as its children. -/
theorem entriesOfAll_append_entriesOfRow
    (parent position : Nat) (row : List Waiting) :
    entriesOfAll parent position ((row.takeWhile (waitsFor parent)).map (·.tree)) ++
        entriesOfRow
          (position + sizeOfAll ((row.takeWhile (waitsFor parent)).map (·.tree)))
          (row.dropWhile (waitsFor parent)) =
      entriesOfRow position row := by
  induction row generalizing position with
  | nil => simp [entriesOfAll, entriesOfRow, sizeOfAll]
  | cons waiting later ih =>
    by_cases waits : waitsFor parent waiting = true
    · have parentEq : waiting.parent? = some parent := by
        simpa only [waitsFor, beq_iff_eq] using waits
      simp only [List.takeWhile_cons, List.dropWhile_cons, waits, ↓reduceIte, List.map_cons,
        entriesOfAll, sizeOfAll, entriesOfRow, parentEq, List.append_assoc]
      rw [← Nat.add_assoc, ih]
    · simp [waits, entriesOfAll, sizeOfAll]

/-- The row that is read from a list of entries has that list as its flat form. -/
theorem entriesOfRow_rowOfEntries (position : Nat) (entries : List Entry) :
    entriesOfRow position (rowOfEntries position entries) = entries := by
  induction entries generalizing position with
  | nil => rfl
  | cons entry later ih =>
    simp only [rowOfEntries, takeUp, entriesOfRow, entriesFrom, size, List.cons_append]
    rw [Nat.add_comm (sizeOfAll _) 1, ← Nat.add_assoc, entriesOfAll_append_entriesOfRow, ih]

/-- No tree at the front of a row waits for an entry at a position or after it. -/
def Settled (position : Nat) (row : List Waiting) : Prop :=
  ∀ waiting ∈ row.head?, ∀ later, position ≤ later → waiting.parent? ≠ some later

theorem takeWhile_waitsFor
    (position : Nat) (trees : List Tree) (row : List Waiting)
    (settled : Settled position row) :
    (trees.map (Waiting.mk (some position)) ++ row).takeWhile (waitsFor position) =
      trees.map (Waiting.mk (some position)) := by
  induction trees with
  | nil =>
    cases row with
    | nil => rfl
    | cons waiting later =>
      have notWaiting := settled waiting rfl position (Nat.le_refl position)
      simp [waitsFor, notWaiting]
  | cons tree later ih => simpa [waitsFor] using ih

theorem dropWhile_waitsFor
    (position : Nat) (trees : List Tree) (row : List Waiting)
    (settled : Settled position row) :
    (trees.map (Waiting.mk (some position)) ++ row).dropWhile (waitsFor position) = row := by
  induction trees with
  | nil =>
    cases row with
    | nil => rfl
    | cons waiting later =>
      have notWaiting := settled waiting rfl position (Nat.le_refl position)
      simp [waitsFor, notWaiting]
  | cons tree later ih => simpa [waitsFor] using ih

mutual

/-- A tree's flat form is read back as that tree, in front of what follows. -/
theorem rowOfEntries_entriesFrom
    (tree : Tree) (parent? : Option Nat) (position : Nat) (rest : List Entry)
    (settled : Settled position (rowOfEntries (position + tree.size) rest)) :
    rowOfEntries position (tree.entriesFrom parent? position ++ rest) =
      ⟨parent?, tree⟩ :: rowOfEntries (position + tree.size) rest := by
  match tree with
  | .node label children =>
    have sizeEq : position + (Tree.node label children).size =
        position + 1 + sizeOfAll children := by
      simp only [size]
      omega
    rw [sizeEq] at settled ⊢
    simp only [entriesFrom, List.cons_append, rowOfEntries, takeUp]
    rw [rowOfEntries_entriesOfAll children position (position + 1) rest
        (Nat.lt_succ_self position)
        (fun waiting front later above => settled waiting front later (by omega)),
      takeWhile_waitsFor position children _ settled,
      dropWhile_waitsFor position children _ settled]
    simp [Function.comp_def]

/-- The flat forms of several siblings are read back as these, in front of what follows. -/
theorem rowOfEntries_entriesOfAll
    (trees : List Tree) (parent position : Nat) (rest : List Entry)
    (below : parent < position)
    (settled : Settled position (rowOfEntries (position + sizeOfAll trees) rest)) :
    rowOfEntries position (entriesOfAll parent position trees ++ rest) =
      trees.map (Waiting.mk (some parent)) ++
        rowOfEntries (position + sizeOfAll trees) rest := by
  match trees with
  | [] => simp [entriesOfAll, sizeOfAll]
  | tree :: later =>
    simp only [sizeOfAll, ← Nat.add_assoc] at settled ⊢
    have laterRow :=
      rowOfEntries_entriesOfAll later parent (position + tree.size) rest (by omega)
        (fun waiting front above bound => settled waiting front above (by omega))
    simp only [entriesOfAll, List.append_assoc, List.map_cons, List.cons_append]
    rw [rowOfEntries_entriesFrom tree (some parent) position _ ?_, laterRow]
    rw [laterRow]
    cases later with
    | nil => simpa [sizeOfAll] using settled
    | cons next others =>
      intro waiting front above bound
      simp only [List.map_cons, List.cons_append, List.head?_cons, Option.mem_def,
        Option.some.injEq] at front
      subst front
      simp only [ne_eq, Option.some.injEq]
      omega

end

/-- A list of entries is read as a tree exactly when it is the flat form of that tree. -/
theorem ofEntries?_eq_some_iff (entries : List Entry) (tree : Tree) :
    ofEntries? entries = some tree ↔ entries = tree.entries := by
  constructor
  · intro accepted
    have flat := entriesOfRow_rowOfEntries 0 entries
    unfold ofEntries? at accepted
    split at accepted
    next onlyTree rowEq =>
      obtain rfl : onlyTree = tree := by simpa using accepted
      rw [rowEq] at flat
      simpa [entriesOfRow, Tree.entries] using flat.symm
    next => simp at accepted
  · rintro rfl
    have row := rowOfEntries_entriesFrom tree none 0 [] (by simp [Settled, rowOfEntries])
    simp only [List.append_nil, rowOfEntries] at row
    simp [ofEntries?, Tree.entries, row]

end Tree

end SoliditySyntax
