import Obsion.Knowledge.Jsonml.Text

/-! # What the renderer writes

The renderer builds its text from literals by concatenation, `strip` and the two
generated blocks.  `Rendering` names these operations, so that the same renderer
also writes a text that remembers which of it is generated markup.  The code's
renderer writes `Text`. -/

namespace Obsion.Jsonml

inductive Markup
  | table
  | columns
  deriving DecidableEq, Repr

def Markup.opening : Markup → Text
  | .table => text "<table>\n"
  | .columns => text "<div class=\"columns\">\n"

def Markup.closing : Markup → Text
  | .table => text "\n</table>"
  | .columns => text "\n</div>"

class Rendering (ω : Type) where
  plain : Text → ω
  append : ω → ω → ω
  strip : ω → ω
  block : Markup → ω → ω
  toText : ω → Text
  toText_plain (text : Text) : toText (plain text) = text
  toText_append (left right : ω) : toText (append left right) = toText left ++ toText right
  toText_strip (output : ω) : toText (strip output) = Jsonml.strip (toText output)
  toText_block (markup : Markup) (inner : ω) :
    toText (block markup inner) = markup.opening ++ toText inner ++ markup.closing

instance : Rendering Text where
  plain text := text
  append left right := left ++ right
  strip := strip
  block markup inner := markup.opening ++ inner ++ markup.closing
  toText text := text
  toText_plain _ := rfl
  toText_append _ _ := rfl
  toText_strip _ := rfl
  toText_block _ _ := rfl

namespace Rendering

attribute [simp] toText_plain toText_append toText_strip toText_block

variable {ω : Type} [Rendering ω]

def join (separator : Text) : List ω → ω
  | [] => plain []
  | [output] => output
  | output :: next :: rest => append output (append (plain separator) (join separator (next :: rest)))

def escape (output : ω) : ω := plain (Jsonml.escape (toText output))

def quoteLines (output : ω) : ω := plain (Jsonml.quoteLines (toText output))

@[simp] lemma toText_escape (output : ω) :
    toText (escape output) = Jsonml.escape (toText output) := toText_plain _

@[simp] lemma toText_quoteLines (output : ω) :
    toText (quoteLines output) = Jsonml.quoteLines (toText output) := toText_plain _

@[simp] lemma toText_join (separator : Text) (outputs : List ω) :
    toText (join separator outputs) = separator.intercalate (outputs.map toText) := by
  induction outputs with
  | nil => exact toText_plain []
  | cons output rest ih =>
    cases rest with
    | nil => simp [join]
    | cons next rest =>
      rw [join, toText_append, toText_append, toText_plain, ih, List.map_cons, List.map_cons,
        List.map_cons, List.intercalate_cons_cons, List.append_assoc]

lemma toText_join_eq (separator : Text) (outputs : List ω) :
    toText (join separator outputs) = join separator (outputs.map toText) := by
  rw [toText_join]
  have eq := toText_join separator (outputs.map (toText : ω → Text))
  rw [show (outputs.map (toText : ω → Text)).map (toText : Text → Text) = outputs.map toText from
    List.map_id' _] at eq
  exact eq.symm

end Rendering

end Obsion.Jsonml
