import PagedTable.Failure

namespace PagedTable

inductive ScreenSize where
  | xxs | xs | s | sm | m | ml | l | xl | xxl | xxxl | xxxxl
deriving DecidableEq

namespace ScreenSize

def percent : ScreenSize → Nat
  | .xxs => 20
  | .xs => 30
  | .s => 40
  | .sm => 45
  | .m => 50
  | .ml => 55
  | .l => 60
  | .xl => 70
  | .xxl => 75
  | .xxxl => 80
  | .xxxxl => 90

def name : ScreenSize → String
  | .xxs => "XXS"
  | .xs => "XS"
  | .s => "S"
  | .sm => "SM"
  | .m => "M"
  | .ml => "ML"
  | .l => "L"
  | .xl => "XL"
  | .xxl => "XXL"
  | .xxxl => "XXXL"
  | .xxxxl => "XXXXL"

def all : List ScreenSize := [.xxs, .xs, .s, .sm, .m, .ml, .l, .xl, .xxl, .xxxl, .xxxxl]

def ofName? (s : String) : Option ScreenSize := all.find? fun size => size.name = s

def text (size : ScreenSize) : String := numberOf size.percent

-- The part of a length, computed as a binary fraction and cut to a whole number.
def pixels (size : ScreenSize) (total : Int) : Except Fault Int :=
  let part := total * size.percent
  match Binary64.nearest (part < 0) part.natAbs 100 with
  | some x => .ok x.truncate
  | none => .error .overflow

end ScreenSize

-- Least, greatest and preferred size in both directions.
structure SizeProfile (α : Type) where
  minWidth : α
  maxWidth : α
  width : α
  minHeight : α
  maxHeight : α
  height : α
deriving DecidableEq

abbrev DialogSize := SizeProfile ScreenSize

namespace SizeProfile

def uniform {α : Type} (width height : α) : SizeProfile α where
  minWidth := width
  maxWidth := width
  width := width
  minHeight := height
  maxHeight := height
  height := height

def default : DialogSize := uniform .m .m

instance : Inhabited DialogSize := ⟨default⟩

def pixels (p : DialogSize) (totalWidth totalHeight : Int) : Except Fault (SizeProfile Int) := do
  let minWidth ← p.minWidth.pixels totalWidth
  let maxWidth ← p.maxWidth.pixels totalWidth
  let width ← p.width.pixels totalWidth
  let minHeight ← p.minHeight.pixels totalHeight
  let maxHeight ← p.maxHeight.pixels totalHeight
  let height ← p.height.pixels totalHeight
  return { minWidth, maxWidth, width, minHeight, maxHeight, height }

end SizeProfile

end PagedTable
