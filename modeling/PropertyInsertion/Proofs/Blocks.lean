import PropertyInsertion.Proofs.GeneratedLines
import PropertyInsertion.Proofs.Ranges

/-!
# Constructors with their own lines

A document with a constructor that closes below its signature falls into parts. Which parts they are
is what a pass over the lines finds; `hasBlock_iff` says it by the lines alone, so that a text put
together from lines can be shown to have the constructor that was put there.
-/

namespace PropertyInsertion

open Declarations

/-- A constructor with its own lines, and the lines around it. -/
structure Block where
  above : List Text
  docblock : List Text
  /-- The signature, as the text around and inside its parentheses. -/
  group : Line.Parentheses
  body : List Text
  closing : Text
  below : List Text

namespace Block

def front (block : Block) : List Text := block.above ++ block.docblock

def lines (block : Block) : List Text :=
  block.front ++ block.group.line :: (block.body ++ block.closing :: block.below)

/-- The parts are taken for what they are. -/
structure Reads (block : Block) : Prop where
  staysOpen : staysOpen false block.front = true
  isSignature : Line.isConstructorSignature block.group.line = true
  notInline : (Line.inlineBody? block.group.line).isSome = false
  body : ∀ line ∈ block.body, isInner line = true
  closingNotSignature : Line.isConstructorSignature block.closing = false
  closes : Line.isNestedClose block.closing = true

end Block

/-- A pass over the document finds the constructor of the block, from the start of its docblock to
its closing line, and the parentheses are the first ones of its signature. -/
structure Document.HasBlock (doc : Document) (block : Block) : Prop where
  lines : doc.lines = block.lines
  parentheses : '(' ∉ block.group.before ∧ ')' ∉ block.group.inside
  found : ∃ ctor, (scan doc.view).constructor? = some ctor ∧
    ctor.range.start.line = block.above.length ∧ ctor.line = block.front.length ∧
    ctor.closingLine = some (block.front.length + 1 + block.body.length)

section HasBlock

variable {doc : Document} {block : Block}

/-- Parts whose signature and closing line a pass finds are taken for what they are. -/
theorem reads_of_scan {ctor : Constructor} (hlines : doc.lines = block.lines)
    (hctor : (scan doc.view).constructor? = some ctor) (hline : ctor.line = block.front.length)
    (hclosing : ctor.closingLine = some (block.front.length + 1 + block.body.length)) :
    block.Reads ∧ doc.view.constructorRange? block.front.length
      (lowerBound block.front block.group.line) = some ctor.range := by
  obtain ⟨front, signature, below, hlocated⟩ := scan_constructor?_eq_some_iff.mp hctor
  have hsplit : front ++ signature :: below = block.lines := hlocated.lines.symm.trans hlines
  have hlength : front.length = block.front.length := hlocated.line.symm.trans hline
  obtain ⟨rfl, hrest⟩ := List.append_inj hsplit hlength
  obtain ⟨rfl, rfl⟩ := List.cons.inj hrest
  have hends := hlocated.ends
  rw [hclosing] at hends
  refine ⟨?_, hlocated.range⟩
  generalize hstop : some (block.front.length + 1 + block.body.length) = stop at hends
  cases hends with
  | inline hinline =>
      have hsame := Option.some.inj hstop
      omega
  | block body closing rest hinline hbelow hbody hsignature hcloses =>
      have hsame := Option.some.inj hstop
      obtain ⟨hsameBody, hsameRest⟩ := List.append_inj hbelow (by omega)
      obtain ⟨rfl, -⟩ := List.cons.inj hsameRest
      rw [← hsameBody] at hbody
      exact ⟨hlocated.staysOpen, hlocated.isSignature, hinline, hbody, hsignature, hcloses⟩
  | never hinline hbody => contradiction

/-- The parts of a block are told by the lines alone. -/
theorem hasBlock_iff :
    doc.HasBlock block ↔
      doc.lines = block.lines ∧ ('(' ∉ block.group.before ∧ ')' ∉ block.group.inside) ∧
        block.Reads ∧
        ∃ range, doc.view.constructorRange? block.front.length
            (lowerBound block.front block.group.line) = some range ∧
          range.start.line = block.above.length := by
  constructor
  · rintro ⟨hlines, hparentheses, ctor, hctor, hstart, hline, hclosing⟩
    obtain ⟨hreads, hrange⟩ := reads_of_scan hlines hctor hline hclosing
    exact ⟨hlines, hparentheses, hreads, ctor.range, hrange, hstart⟩
  · rintro ⟨hlines, hparentheses, hreads, range, hrange, hstart⟩
    have hends : Ends block.front.length block.group.line
        (block.body ++ block.closing :: block.below)
        (some (block.front.length + 1 + block.body.length)) :=
      .block block.body block.closing block.below hreads.notInline rfl hreads.body
        hreads.closingNotSignature hreads.closes
    have hlocated : Located doc ⟨block.front.length, range,
        some (block.front.length + 1 + block.body.length)⟩ block.front block.group.line
        (block.body ++ block.closing :: block.below) :=
      ⟨hlines, rfl, hreads.staysOpen, hreads.isSignature, hrange, hends⟩
    exact ⟨hlines, hparentheses, _, hlocated.scan_eq, hstart, rfl, rfl⟩

theorem Document.HasBlock.scan_eq (h : doc.HasBlock block) :
    scan doc.view = noteLines doc.view 0
      (block.front ++ block.group.line :: block.body ++ [block.closing]) {} := by
  obtain ⟨hlines, -, hreads, -⟩ := hasBlock_iff.mp h
  exact scan_of_block hlines hreads.staysOpen hreads.isSignature hreads.notInline hreads.body
    hreads.closingNotSignature hreads.closes

end HasBlock

end PropertyInsertion
