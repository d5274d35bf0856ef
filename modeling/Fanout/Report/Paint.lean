/-!
# Colors of a terminal

* `Style` : a color and whether the text is bold;
* `paint` : a text in a style, or as it is where colors are off.
-/

namespace Fanout

inductive Color where
  | red
  | green
  | yellow
  | blue
  | cyan
  | grey
  deriving Repr, DecidableEq

def Color.code : Color → String
  | .red => "31"
  | .green => "32"
  | .yellow => "33"
  | .blue => "34"
  | .cyan => "36"
  | .grey => "90"

structure Style where
  color : Option Color := none
  bold : Bool := false

/-- A sequence that tells the terminal to change how it shows text. -/
def control (code : String) : String := "\x1b[" ++ code ++ "m"

def Color.wrap (c : Color) (text : String) : String := control c.code ++ text ++ control "39"

def embolden (text : String) : String := control "1" ++ text ++ control "0"

def paint (colored : Bool) (style : Style) (text : String) : String :=
  if colored then
    let text := match style.color with
      | some c => c.wrap text
      | none => text
    if style.bold then embolden text else text
  else text

def bold (c : Color) : Style := ⟨some c, true⟩
def plain (c : Color) : Style := ⟨some c, false⟩

def errorMark (colored : Bool) : String := paint colored (bold .red) "error:"

def noteMark (colored : Bool) : String := paint colored (bold .grey) "note:"

end Fanout
