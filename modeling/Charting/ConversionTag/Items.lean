import Charting.ConversionTag.Spec
import Charting.Scene

/-!
# Conversion tags

One tag for each two adjacent elements: an arrow in the gap between them, and a text with the share
of the first value that the second one is. Tags between columns and tags between rows are laid out
by the same rule with the axes exchanged.
-/

namespace Charting

/-- The tag between two adjacent elements. -/
structure TagItem (α : Type := Float) where
  fromIndex : Nat
  toIndex : Nat
  text : Option String
  /-- The body of the arrow; hidden ones and those with no room are left out. -/
  arrow : Option (Box α)
  textX : α
  textY : α
deriving DecidableEq

/-- The tags of a scene. -/
structure ConversionTag (α : Type := Float) where
  spec : TagSpec α
  items : List (TagItem α)

namespace TagItem

/-- Where a tag is: the gap it stands in and the line it is centred on. -/
structure Placement (α : Type) where
  gapStart : α
  gapEnd : α
  cross : α

section Placing

variable {α : Type} [Add α] [Sub α] [Mul α] [Div α] [LT α] [DecidableLT α] [BEq α] [Quantity α]

/-- The gap between two boxes after spacing, centred on the shorter of two columns or rows. -/
def place (spec : TagSpec α) (before after : Box α) : Placement α :=
  if spec.transpose then
    let top := Quantity.greatest before.minY after.minY
    let base := Quantity.greatest before.maxY after.maxY
    { gapStart := before.maxX + spec.spacing
      gapEnd := after.minX - spec.spacing
      cross := Quantity.half (top + base) + spec.offset }
  else
    let finish := Quantity.least before.maxX after.maxX
    let start := Quantity.least before.minX after.minX
    { gapStart := before.maxY + spec.spacing
      gapEnd := after.minY - spec.spacing
      cross := Quantity.half (start + finish) + spec.offset }

/-- The body of the arrow, if there is to be one and the gap has room for it. -/
def arrowBox? (spec : TagSpec α) (p : Placement α) : Option (Box α) :=
  let half := Quantity.half spec.size
  if spec.arrowVisible && decide (p.gapStart < p.gapEnd) then
    if spec.transpose then some ⟨p.gapStart, p.cross - half, p.gapEnd, p.cross + half⟩
    else some ⟨p.cross - half, p.gapStart, p.cross + half, p.gapEnd⟩
  else none

/-- Where the text stands: in the middle of the gap, on the line. -/
def textAt (spec : TagSpec α) (p : Placement α) : α × α :=
  let along := Quantity.half (p.gapStart + p.gapEnd)
  if spec.transpose then (along, p.cross) else (p.cross, along)

end Placing

/-- The second value as a percentage of the first; a dash if either is missing or the first is 0. -/
def percentage : Option Float → Option Float → String
  | some before, some after =>
    if before == 0 then "-" else twoPlaces (100 * after / before) ++ "%"
  | _, _ => "-"

/-- The text of a tag: what the caller's function makes of the two values, or their percentage. -/
def describe {σ α : Type} (invoke : Invoke σ) (spec : TagSpec α) (before after : Datum) :
    StateM σ String :=
  let first := before.number? spec.field
  let second := after.number? spec.field
  match spec.formatter with
  | none => pure (percentage first second)
  | some formatter => do
    let value (x : Option Float) : OptionTree := (x.map .num).getD .null
    match ← invoke formatter [value first, value second] with
    | .str s => return s
    | other => return other.toJson.render

end TagItem

namespace ConversionTag

variable {σ α : Type} [Add α] [Sub α] [Mul α] [Div α] [LT α] [DecidableLT α] [BEq α] [Quantity α]

def between (invoke : Invoke σ) (spec : TagSpec α) (before after : Element α) :
    StateM σ (TagItem α) := do
  let text ←
    if spec.valueVisible then some <$> TagItem.describe invoke spec before.datum after.datum
    else pure none
  let p := TagItem.place spec before.box after.box
  let (textX, textY) := TagItem.textAt spec p
  return {
    fromIndex := before.index
    toIndex := after.index
    text
    arrow := TagItem.arrowBox? spec p
    textX
    textY }

def adjacent {β : Type} (xs : List β) : List (β × β) := xs.zip xs.tail

theorem adjacent_map {β γ : Type} (f : β → γ) (xs : List β) :
    adjacent (xs.map f) = (adjacent xs).map (Prod.map f f) := by
  rw [adjacent, adjacent, ← List.map_tail, List.zip_map]

/-- The tags of some elements; none if they are hidden. -/
def attach (invoke : Invoke σ) (elements : List (Element α)) (spec : TagSpec α) :
    StateM σ (Option (ConversionTag α)) :=
  if spec.visible then do
    let items ← (adjacent elements).mapM fun (before, after) => between invoke spec before after
    return some { spec, items }
  else pure none

end ConversionTag

def TagItem.toJson (item : TagItem) : Json :=
  .obj [
    ("fromIndex", .ofNat item.fromIndex),
    ("toIndex", .ofNat item.toIndex),
    ("text", .ofOption .str item.text),
    ("arrow", .ofOption Box.toJson item.arrow),
    ("textX", .ofFloat item.textX),
    ("textY", .ofFloat item.textY)]

def ConversionTag.toJson (tag : ConversionTag) : Json :=
  .obj [("spec", tag.spec.toJson), ("items", .arr (tag.items.map TagItem.toJson))]

end Charting
