import SoliditySyntax.Proofs.Declarations
import SoliditySyntax.Proofs.Names
import SoliditySyntax.Proofs.Slices

/-!
# Texts of nodes and the source that they are cut from

A document is well cut when its tree is laminar and the range of every node
fits the source, so that no node cuts a character.  In such a document every
node has a text.  This module shows how these texts fit together: the text of
a node consists of the texts of its children and of gaps before, between and
behind them, and the source consists in the same way of the texts of the
declarations.

All of this comes from one lemma on the slice of any range and on any nodes
that lie in it one behind the other.
-/

namespace SoliditySyntax

open SoliditySyntax.Text

namespace Document

/-! ## Tilings -/

/--
A text is tiled by some nodes of a range when it consists of their texts in
turn and of gaps, each gap being as long as the distance that it fills: from
the start of the range to the first node, from the stop of a node to the start
of the next one, and from the stop of the last node to that of the range.
-/
inductive TiledBy (document : Document) : ByteRange → List Node → String → Prop where
  /-- The last gap takes what is left of the range. -/
  | last {whole : ByteRange} {gap : String}
      (width : whole.start + gap.utf8ByteSize = whole.stop) :
      TiledBy document whole [] gap
  /-- A gap ends where the text of the next node starts. -/
  | next {whole : ByteRange} {part : Node} {later : List Node} {gap text rest : String}
      (width : whole.start + gap.utf8ByteSize = part.range.start)
      (cut : document.textOf part = .ok text)
      (behind : TiledBy document ⟨part.range.stop, whole.stop⟩ later rest) :
      TiledBy document whole (part :: later) (gap ++ text ++ rest)

/-- The nodes of a document are arranged like their ranges, and no node cuts a character. -/
@[mk_iff]
structure WellCut (document : Document) : Prop where
  laminar : document.root.Laminar
  fits : ∀ node ∈ document.tree.nodes, node.range.Fits document.source

instance (document : Document) : Decidable document.WellCut :=
  decidable_of_iff _ document.wellCut_iff.symm

/--
The slice of a range is tiled by nodes that lie in the range one behind the
other: the range falls into the gap before the first node, that node, and what
is left behind it for the later ones.
-/
theorem tiledBy_of_slice
    {document : Document}
    {whole : ByteRange}
    {parts : List Node}
    {text : String}
    (cut : slice document.source whole = .ok text)
    (fits : ∀ part ∈ parts, part.range.Fits document.source)
    (inside : ∀ part ∈ parts, whole.Covers part.range)
    (inTurn : parts.Pairwise fun earlier later => earlier.range.Precedes later.range) :
    document.TiledBy whole parts text := by
  induction parts generalizing whole text with
  | nil =>
      exact .last (utf8ByteSize_of_slice cut)
  | cons part later ih =>
      have wholeFits : whole.Fits document.source := exists_slice_iff.mp ⟨text, cut⟩
      rcases List.forall_mem_cons.mp fits with ⟨partFits, laterFit⟩
      rcases List.forall_mem_cons.mp inside with ⟨partInside, laterInside⟩
      rcases List.pairwise_cons.mp inTurn with ⟨partFirst, laterInTurn⟩
      have gapFits : ByteRange.Fits ⟨whole.start, part.range.start⟩ document.source :=
        ⟨partInside.1, wholeFits.startsAt, partFits.startsAt⟩
      have restFits : ByteRange.Fits ⟨part.range.stop, whole.stop⟩ document.source :=
        ⟨partInside.2, partFits.stopsAt, wholeFits.stopsAt⟩
      rcases exists_slice_iff.mpr gapFits with ⟨gap, gapCut⟩
      rcases exists_slice_iff.mpr partFits with ⟨partText, partCut⟩
      rcases exists_slice_iff.mpr restFits with ⟨rest, restCut⟩
      have joined :
          slice document.source whole = .ok (gap ++ partText ++ rest) :=
        slice_append (slice_append gapCut partCut) restCut
      obtain rfl : text = gap ++ partText ++ rest :=
        Except.ok.inj (cut.symm.trans joined)
      refine .next (utf8ByteSize_of_slice gapCut) partCut (ih restCut laterFit ?_ laterInTurn)
      intro node member
      exact ⟨partFirst node member, (laterInside node member).2⟩

/-! ## Well cut documents -/

namespace WellCut

variable {document : Document}

theorem exists_textOf
    (wellCut : document.WellCut)
    {node : Node}
    (member : node ∈ document.tree.nodes) :
    ∃ text, document.textOf node = .ok text :=
  exists_slice_iff.mpr (wellCut.fits node member)

theorem tiledBy_children
    (wellCut : document.WellCut)
    {node : Node}
    (member : node ∈ document.tree.nodes)
    {text : String}
    (cut : document.textOf node = .ok text) :
    document.TiledBy node.range node.children text := by
  have laminar : node.Laminar := wellCut.laminar.of_mem_subtree member
  apply tiledBy_of_slice cut
  · intro child childMember
    exact wellCut.fits child (Tree.child_mem_nodes member childMember)
  · intro child childMember
    exact laminar.inside node node.self_mem_subtree child childMember
  · exact laminar.children_inTurn

theorem tiledBy_declarations (wellCut : document.WellCut) :
    document.TiledBy ⟨0, document.source.utf8ByteSize⟩ document.declarations
      document.source := by
  have fits (declaration : Node) (member : declaration ∈ document.declarations) :
      declaration.range.Fits document.source :=
    wellCut.fits declaration (mem_nodes_of_mem_declarations member)
  apply tiledBy_of_slice (slice_whole document.source) fits
  · intro declaration member
    exact ⟨Nat.zero_le _, (fits declaration member).stop_le⟩
  · exact wellCut.laminar.children_inTurn.sublist document.declarations_sublist_children

/-- Asking for a name succeeds, and a name is found in the text of its node where its child starts. -/
theorem exists_nameOf
    (wellCut : document.WellCut)
    {node : Node}
    (member : node ∈ document.tree.nodes) :
    ∃ name?, document.nameOf node = .ok name? ∧
      ∀ name, name? = some name →
        ∃ child text before after,
          node.childByField? FieldName.name.text = some child ∧
            document.textOf node = .ok text ∧ text = before ++ name ++ after ∧
              node.range.start + before.utf8ByteSize = child.range.start ∧
                child.range.start + name.utf8ByteSize = child.range.stop := by
  cases named : node.childByField? FieldName.name.text with
  | none =>
      refine ⟨none, nameOf_of_unnamed named, ?_⟩
      intro name found
      cases found
  | some child =>
      have childMember : child ∈ node.children := List.mem_of_find?_eq_some named
      rcases wellCut.exists_textOf member with ⟨text, textCut⟩
      rcases wellCut.exists_textOf (Tree.child_mem_nodes member childMember) with
        ⟨name, nameCut⟩
      have covers := wellCut.laminar.inside node member child childMember
      rcases exists_slice_inside textCut nameCut covers.1 covers.2 with
        ⟨before, after, textEq, width⟩
      refine ⟨some name, by rw [nameOf_of_named named, nameCut]; rfl, ?_⟩
      rintro _ ⟨rfl⟩
      exact
        ⟨child, text, before, after, rfl, textCut, textEq, width,
          utf8ByteSize_of_slice nameCut⟩

end WellCut

/--
In a well cut document every node has a text, which the texts of its children
tile; the texts of the declarations tile the source; and asking a node for its
name never fails, the name being the part of the node's text that starts where
the child does that holds the name.
-/
theorem texts_tile
    (document : Document)
    (wellCut : document.WellCut) :
    (∀ node ∈ document.tree.nodes,
      ∃ text, document.textOf node = .ok text ∧
        document.TiledBy node.range node.children text) ∧
      document.TiledBy ⟨0, document.source.utf8ByteSize⟩ document.declarations
        document.source ∧
      ∀ node ∈ document.tree.nodes,
        ∃ name?, document.nameOf node = .ok name? ∧
          ∀ name, name? = some name →
            ∃ child text before after,
              node.childByField? FieldName.name.text = some child ∧
                document.textOf node = .ok text ∧ text = before ++ name ++ after ∧
                  node.range.start + before.utf8ByteSize = child.range.start ∧
                    child.range.start + name.utf8ByteSize = child.range.stop := by
  refine ⟨?_, wellCut.tiledBy_declarations, fun node member => wellCut.exists_nameOf member⟩
  intro node member
  rcases wellCut.exists_textOf member with ⟨text, cut⟩
  exact ⟨text, cut, wellCut.tiledBy_children member cut⟩

/-- A contract with letters of two bytes before it and in it. -/
def accentedContract : Tree :=
  .node ⟨"contract_declaration", true, false, false, false, none, ⟨6, 29⟩, ⟨1, 0⟩, ⟨1, 23⟩⟩
    [.node ⟨"contract", false, false, false, false, none, ⟨6, 14⟩, ⟨1, 0⟩, ⟨1, 8⟩⟩ [],
      .node ⟨"identifier", true, false, false, false, some "name", ⟨15, 16⟩, ⟨1, 9⟩, ⟨1, 10⟩⟩ [],
      .node ⟨"contract_body", true, false, false, false, some "body", ⟨17, 29⟩, ⟨1, 11⟩, ⟨1, 23⟩⟩
        [.node ⟨"\x7b", false, false, false, false, none, ⟨17, 18⟩, ⟨1, 11⟩, ⟨1, 12⟩⟩ [],
          .node ⟨"comment", true, false, false, false, none, ⟨19, 27⟩, ⟨1, 13⟩, ⟨1, 21⟩⟩ [],
          .node ⟨"\x7d", false, false, false, false, none, ⟨28, 29⟩, ⟨1, 22⟩, ⟨1, 23⟩⟩ []]]

/-- A source with a comment before its only declaration. -/
def accentedSample : Document where
  source := "// é\ncontract C \x7b /* ü */ \x7d"
  tree :=
    .node ⟨"source_file", true, false, false, false, none, ⟨0, 29⟩, ⟨0, 0⟩, ⟨1, 23⟩⟩
      [.node ⟨"comment", true, false, false, false, none, ⟨0, 5⟩, ⟨0, 0⟩, ⟨0, 5⟩⟩ [],
        accentedContract]

theorem texts_tile_accentedSample :
    accentedSample.WellCut ∧
      accentedSample.declarations = [⟨2, accentedContract⟩] ∧
        accentedSample.TiledBy ⟨0, 29⟩ [⟨2, accentedContract⟩] accentedSample.source ∧
          accentedSample.nameOf ⟨2, accentedContract⟩ = .ok (some "C") ∧
            ∃ text before after,
              accentedSample.textOf ⟨2, accentedContract⟩ = .ok text ∧
                accentedSample.TiledBy ⟨6, 29⟩ (Node.children ⟨2, accentedContract⟩) text ∧
                  text = before ++ "C" ++ after ∧ 6 + before.utf8ByteSize = 15 := by
  have wellCut : accentedSample.WellCut := by decide
  have declarations : accentedSample.declarations = [⟨2, accentedContract⟩] := by
    rfl
  have member : ⟨2, accentedContract⟩ ∈ accentedSample.tree.nodes := by
    apply mem_nodes_of_mem_declarations
    rw [declarations]
    exact List.mem_singleton_self _
  have answered : accentedSample.nameOf ⟨2, accentedContract⟩ = .ok (some "C") := by
    decide
  rcases texts_tile accentedSample wellCut with ⟨ofChildren, ofDeclarations, ofNames⟩
  rw [declarations] at ofDeclarations
  rcases ofChildren _ member with ⟨text, cut, tiled⟩
  rcases ofNames _ member with ⟨name?, answeredAgain, inside⟩
  obtain rfl : name? = some "C" := Except.ok.inj (answeredAgain.symm.trans answered)
  rcases inside "C" rfl with
    ⟨child, textAgain, before, after, held, cutAgain, split, starts, -⟩
  obtain rfl : textAgain = text := Except.ok.inj (cutAgain.symm.trans cut)
  cases held
  exact
    ⟨wellCut, declarations, ofDeclarations, answered, textAgain, before, after, cut, tiled,
      split, starts⟩

end Document

end SoliditySyntax
