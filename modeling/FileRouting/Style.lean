import FileRouting.Text

/-!
# Styles on a terminal

Parts of an output may be set off by a style.  A styled text is put between the
sequence that selects the style and the sequence that ends all styles; where
colours are not wanted it stays as it is.
-/

namespace FileRouting

/-- How parts of an output are set off on a terminal. -/
inductive Style where
  | bold
  | dimmed
  | green
  | yellow
  | cyan
  deriving DecidableEq, Repr

namespace Style

/-- The number that selects a style. -/
def code : Style → Text
  | .bold => ['1']
  | .dimmed => ['2']
  | .green => ['3', '2']
  | .yellow => ['3', '3']
  | .cyan => ['3', '6']

/-- The sequence that selects a style. -/
def start (style : Style) : Text :=
  '\x1b' :: '[' :: style.code ++ ['m']

/-- The sequence that ends all styles. -/
def ending : Text := "\x1b[0m".toList

/-- A text in which a style is selected again wherever all styles end. -/
def resume (style : Style) : Text → Text
  | '\x1b' :: '[' :: '0' :: 'm' :: later => ending ++ style.start ++ resume style later
  | c :: later => c :: resume style later
  | [] => []

/-- A text in a style, if colours are wanted.  A text that ends all styles
itself does not end this one. -/
def apply (style : Style) (colour : Bool) (text : Text) : Text :=
  if colour then style.start ++ style.resume text ++ ending else text

@[simp] theorem apply_true (style : Style) (text : Text) :
    style.apply true text = style.start ++ style.resume text ++ ending :=
  rfl

@[simp] theorem apply_false (style : Style) (text : Text) :
    style.apply false text = text :=
  rfl

end Style

end FileRouting
