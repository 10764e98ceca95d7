import CrateReadme.Markdown.Printer
import Mathlib.Data.List.Forall2

/-!
# Links in the order in which they are met

The links and images of a document, listed by a walk over its blocks in which a link comes before
what is inside it. The writer, which collects destinations while it writes, collects along the same
walk.
-/

namespace CrateReadme.Markdown

/-- A link or an image, apart from what it shows. -/
structure Anchor where
  isImage : Bool
  target : Target

/-- Whether a placeholder takes the place of the destination: of an image always, of a link unless
it leads to a place in the document itself. -/
def Anchor.isNumbered (anchor : Anchor) : Bool :=
  anchor.isImage || !anchor.target.isLocal

/-- What is collected for links and images. -/
def Anchor.raws (anchors : List Anchor) : List (List Char) :=
  (anchors.filter isNumbered).map fun anchor => anchor.target.raw

theorem Anchor.raws_append (anchors more : List Anchor) :
    raws (anchors ++ more) = raws anchors ++ raws more := by
  simp [raws]

mutual

/-- The links and images in inline content, each before those inside it. -/
def Inline.anchors : Inline → List Anchor
  | .text _ | .softBreak | .hardBreak | .code _ | .html _ | .autolink _ => []
  | .emphasis children | .strong children | .struck children => Inline.anchorsAll children
  | .link target children => ⟨false, target⟩ :: Inline.anchorsAll children
  | .image target children => ⟨true, target⟩ :: Inline.anchorsAll children

/-- The links and images in pieces of inline content, one piece after the other. -/
def Inline.anchorsAll : List Inline → List Anchor
  | [] => []
  | first :: rest => first.anchors ++ Inline.anchorsAll rest

end

theorem Inline.anchorsAll_append (front back : List Inline) :
    anchorsAll (front ++ back) = anchorsAll front ++ anchorsAll back := by
  induction front with
  | nil => rfl
  | cons first rest ih => simp [anchorsAll, ih]

namespace Block

variable {Content Other : Type}

mutual

/-- What the paragraphs, headings and table cells in a block hold, in their order. -/
def contents : Block Content → List Content
  | .paragraph content | .heading _ content => [content]
  | .quote children => contentsAll children
  | .bulletList _ items | .orderedList _ _ items => contentsItems items
  | .fence _ _ | .indentedCode _ | .rule | .html _ => []
  | .table _ header rows => header ++ rows.flatten

/-- What the paragraphs, headings and table cells in blocks hold. -/
def contentsAll : List (Block Content) → List Content
  | [] => []
  | block :: blocks => contents block ++ contentsAll blocks

/-- What the paragraphs, headings and table cells in list items hold. -/
def contentsItems : List (List (Block Content)) → List Content
  | [] => []
  | item :: items => contentsAll item ++ contentsItems items

end

mutual

theorem contents_map (change : Content → Other) :
    (block : Block Content) → (block.map change).contents = block.contents.map change
  | .paragraph _ | .heading _ _ | .fence _ _ | .indentedCode _ | .rule | .html _ => rfl
  | .quote children => contentsAll_mapAll change children
  | .bulletList _ items | .orderedList _ _ items => contentsItems_mapItems change items
  | .table _ header rows => by simp [map, contents, List.map_flatten]

theorem contentsAll_mapAll (change : Content → Other) :
    (blocks : List (Block Content)) →
      contentsAll (mapAll change blocks) = (contentsAll blocks).map change
  | [] => rfl
  | block :: blocks => by
    simp [mapAll, contentsAll, contents_map change block, contentsAll_mapAll change blocks]

theorem contentsItems_mapItems (change : Content → Other) :
    (items : List (List (Block Content))) →
      contentsItems (mapItems change items) = (contentsItems items).map change
  | [] => rfl
  | item :: items => by
    simp [mapItems, contentsItems, contentsAll_mapAll change item,
      contentsItems_mapItems change items]

end

end Block

/-- The links and images in pieces of content. -/
def anchorsOf (contents : List (List Inline)) : List Anchor :=
  contents.flatMap Inline.anchorsAll

theorem anchorsOf_append (contents more : List (List Inline)) :
    anchorsOf (contents ++ more) = anchorsOf contents ++ anchorsOf more :=
  List.flatMap_append

/-- The links and images in a document, in the order of its text. -/
def Document.anchors (document : Document) : List Anchor :=
  anchorsOf (Block.contentsAll document.blocks)

namespace Printer

theorem links_lineBreak (place : Place) (mark : List Char) (pen : Pen) :
    (lineBreak place mark pen).2.links = pen.links := by
  rw [lineBreak]
  split <;> rfl

mutual

/-- Writing inline content collects its links and images behind those collected before. -/
theorem links_inline (place : Place) : (content : Inline) → (pen : Pen) →
    (inline place content pen).2.links = pen.links ++ Anchor.raws content.anchors
  | .softBreak, pen | .hardBreak, pen => by
    simp [inline, links_lineBreak, Inline.anchors, Anchor.raws]
  | .text _, pen | .code _, pen | .html _, pen | .autolink _, pen => by
    simp [inline, Inline.anchors, Anchor.raws]
  | .emphasis children, pen | .strong children, pen | .struck children, pen => by
    simp only [inline, Inline.anchors, links_inlines place children pen]
  | .link target children, pen => by
    by_cases hlocal : target.isLocal
    · have hraws : Anchor.raws (⟨false, target⟩ :: Inline.anchorsAll children) =
          Anchor.raws (Inline.anchorsAll children) := by
        simp [Anchor.raws, Anchor.isNumbered, hlocal]
      simp only [inline, if_pos hlocal, Inline.anchors, hraws, links_inlines place children pen]
    · have hraws : Anchor.raws (⟨false, target⟩ :: Inline.anchorsAll children) =
          target.raw :: Anchor.raws (Inline.anchorsAll children) := by
        simp [Anchor.raws, Anchor.isNumbered, hlocal]
      simp only [inline, if_neg hlocal, Inline.anchors, hraws, links_inlines place children,
        List.append_assoc, List.singleton_append]
  | .image target children, pen => by
    have hraws : Anchor.raws (⟨true, target⟩ :: Inline.anchorsAll children) =
        target.raw :: Anchor.raws (Inline.anchorsAll children) := by
      simp [Anchor.raws, Anchor.isNumbered]
    simp only [inline, Inline.anchors, hraws, links_inlines place children, List.append_assoc,
      List.singleton_append]

theorem links_inlines (place : Place) : (contents : List Inline) → (pen : Pen) →
    (inlines place contents pen).2.links =
      pen.links ++ Anchor.raws (Inline.anchorsAll contents)
  | [], pen => by simp [inlines, Inline.anchorsAll, Anchor.raws]
  | first :: rest, pen => by
    simp only [inlines, Inline.anchorsAll, links_inlines place rest, links_inline place first,
      Anchor.raws_append, List.append_assoc]

end

/-- Content collects its links behind the given ones. -/
theorem links_content (place : Place) (inlineContent : List Inline) (links : List (List Char)) :
    (content place inlineContent links).2 =
      links ++ Anchor.raws (Inline.anchorsAll inlineContent) :=
  links_inlines place inlineContent ⟨links, true⟩

theorem links_cells (row : List (List Inline)) (links : List (List Char)) :
    (cells row links).2 = links ++ Anchor.raws (anchorsOf row) := by
  induction row generalizing links with
  | nil => simp [cells, anchorsOf, Anchor.raws]
  | cons cell more ih =>
    have hcell : anchorsOf (cell :: more) = Inline.anchorsAll cell ++ anchorsOf more := rfl
    simp only [cells, ih, links_content, hcell, Anchor.raws_append, List.append_assoc]

theorem links_rows (body : List (List (List Inline))) (links : List (List Char)) :
    (rows body links).2 = links ++ Anchor.raws (anchorsOf body.flatten) := by
  induction body generalizing links with
  | nil => simp [rows, anchorsOf, Anchor.raws]
  | cons row more ih =>
    simp only [rows, ih, links_cells, List.flatten_cons, anchorsOf_append, Anchor.raws_append,
      List.append_assoc]

mutual

/-- Writing a block collects the links and images of its contents behind those collected before. -/
theorem links_block (alternate : Bool) : (written : Block (List Inline)) →
    (links : List (List Char)) →
      (block alternate written links).2 = links ++ Anchor.raws (anchorsOf written.contents)
  | .paragraph inlineContent, links => by
    simp [block, links_content, Block.contents, anchorsOf]
  | .heading _ inlineContent, links => by
    simp [block, links_content, Block.contents, anchorsOf]
  | .quote children, links => by
    simp only [block, links_blocks none false children links, Block.contents]
  | .bulletList isTight children, links => by
    simp only [block, links_items (isClose isTight children) none alternate 0 children links,
      Block.contents]
  | .orderedList start isTight children, links => by
    simp only [block, Block.contents,
      links_items (isClose isTight children) (some start) alternate 0 children links]
  | .fence _ _, links | .indentedCode _, links | .rule, links | .html _, links => by
    simp [block, Block.contents, anchorsOf, Anchor.raws]
  | .table _ header body, links => by
    simp only [block, links_rows, links_cells, Block.contents, anchorsOf_append,
      Anchor.raws_append, List.append_assoc]

theorem links_blocks (previous : Option (Block (List Inline))) (alternate : Bool) :
    (written : List (Block (List Inline))) → (links : List (List Char)) →
      (blocks previous alternate written links).2 =
        links ++ Anchor.raws (anchorsOf (Block.contentsAll written))
  | [], links => by simp [blocks, Block.contentsAll, anchorsOf, Anchor.raws]
  | first :: rest, links => by
    simp only [blocks, links_blocks (some first) _ rest, links_block _ first, Block.contentsAll,
      anchorsOf_append, Anchor.raws_append, List.append_assoc]

theorem links_items (isTight : Bool) (start : Option Nat) (alternate : Bool) (number : Nat) :
    (written : List (List (Block (List Inline)))) → (links : List (List Char)) →
      (items isTight start alternate number written links).2 =
        links ++ Anchor.raws (anchorsOf (Block.contentsItems written))
  | [], links => by simp [items, Block.contentsItems, anchorsOf, Anchor.raws]
  | first :: rest, links => by
    simp only [items, links_items isTight start alternate (number + 1) rest,
      links_blocks none false first, Block.contentsItems, anchorsOf_append, Anchor.raws_append,
      List.append_assoc]

end

end Printer

theorem Document.links_render (document : Document) :
    document.render.links = Anchor.raws document.anchors :=
  Printer.links_blocks none false document.blocks []

/-- What a placeholder for a link or image with the given end stands for: the destination; for a
reference without definition the label, or its normal form if the label was not kept; for an empty
destination the label or else the title. -/
inductive Target.Stands : Target → List Char → Prop
  | address (c : Char) (text title : List Char) (label : Option (List Char)) :
    Stands ⟨.address (c :: text), title, label⟩ (c :: text)
  | label (key title label : List Char) : Stands ⟨.undefined key, title, some label⟩ label
  | key (key title : List Char) : Stands ⟨.undefined key, title, none⟩ key
  | labelOfEmpty (title : List Char) (c : Char) (label : List Char) :
    Stands ⟨.address [], title, some (c :: label)⟩ (c :: label)
  | titleOfEmpty (title : List Char) (label : Option (List Char)) (hlabel : label.getD [] = []) :
    Stands ⟨.address [], title, label⟩ title

theorem Target.stands_raw (target : Target) : target.Stands target.raw := by
  obtain ⟨destination, title, label⟩ := target
  match destination, label with
  | .undefined key, some label => exact .label key title label
  | .undefined key, none => exact .key key title
  | .address (c :: text), label => exact .address c text title label
  | .address [], some (c :: label) => exact .labelOfEmpty title c label
  | .address [], some [] => exact .titleOfEmpty title (some []) rfl
  | .address [], none => exact .titleOfEmpty title none rfl

theorem Body.names_namedLinks (body : Body) :
    body.namedLinks.map Prod.fst = (List.range body.links.length).map placeholder := by
  have hnames : body.namedLinks.map Prod.fst = (body.links.zipIdx.map Prod.snd).map placeholder := by
    rw [namedLinks, List.map_map, List.map_map]
    rfl
  rw [hnames, List.zipIdx_map_snd, List.range_eq_range']

theorem Body.raws_namedLinks (body : Body) : body.namedLinks.map Prod.snd = body.links := by
  have hraws : body.namedLinks.map Prod.snd = body.links.zipIdx.map Prod.fst := by
    rw [namedLinks, List.map_map]
    rfl
  rw [hraws, List.zipIdx_map_fst]

end CrateReadme.Markdown
