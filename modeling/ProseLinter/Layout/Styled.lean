import ProseLinter.Text.Class

/-!
# Layout/Styled — text with colours

A styled text is a list of spans.  Where colours are wanted, a **styler** puts codes before and
after the text of a span; otherwise the text of the spans is all there is.  A styler is free in its
codes, as long as they have the form of codes; `Styler.terminal` has those of terminals.
-/

namespace ProseLinter.Layout

inductive Color where
  | red
  | green
  | yellow
  deriving DecidableEq, Repr

/-- The look of a span. -/
structure Style where
  color : Option Color
  bold : Bool
  dim : Bool
  underline : Bool
  deriving DecidableEq, Repr

/-- A piece of text: as it is, or in a style. -/
inductive Span where
  | plain (text : List Char)
  | styled (style : Style) (text : List Char)
  deriving DecidableEq, Repr

namespace Style

/-- A style that is a colour alone, or none at all. -/
def ofColor (color : Option Color) : Style := ⟨color, false, false, false⟩

def boldColor (color : Color) : Style := ⟨some color, true, false, false⟩

def dimmed : Style := ⟨none, false, true, false⟩

def underlined : Style := ⟨none, false, false, true⟩

end Style

/-! ## Codes and stylers -/

/-- The character that starts a code. -/
def escapeChar : Char := '\x1b'

/-- The characters between the bracket of a code and the letter that ends it. -/
def isParameter (c : Char) : Bool := c == ';' || c == '?' || c.isDigit

/-- Codes, one after the other: each is the escape character, a bracket, parameters and a letter. -/
inductive Codes : List Char → Prop
  | nil : Codes []
  | cons {parameters rest : List Char} {letter : Char} : parameters.all isParameter = true →
      letter.isAlpha = true → Codes rest →
      Codes (escapeChar :: '[' :: parameters ++ letter :: rest)

/-- **A styler**: the codes that it puts before a text in a style, and those that it puts after. -/
structure Styler where
  before : Style → List Char
  after : List Char
  codes_before : ∀ s, Codes (before s)
  codes_after : Codes after

/-! ## The codes of terminals -/

/-- A code that selects a look. -/
def code (digits : String) : List Char := escapeChar :: '[' :: digits.toList ++ ['m']

/-- The number of a colour. -/
def Color.digits : Color → String
  | red => "31"
  | green => "32"
  | yellow => "33"

/-- The codes of a style, the colour first. -/
def Style.codes (s : Style) : List Char :=
  ((s.color.map fun c => code c.digits).getD []) ++ (if s.bold then code "1" else [])
    ++ (if s.dim then code "2" else []) ++ (if s.underline then code "4" else [])

/-- A code that selects a look. -/
theorem Codes.code {digits : String} {rest : List Char}
    (hdigits : digits.toList.all isParameter = true) (hrest : Codes rest) :
    Codes (Layout.code digits ++ rest) := by
  have hcons : Codes (escapeChar :: '[' :: digits.toList ++ 'm' :: rest) := .cons hdigits rfl hrest
  simpa only [Layout.code, List.cons_append, List.append_assoc, List.nil_append] using hcons

/-- The codes of a style are codes… -/
theorem codes_style (s : Style) : Codes s.codes := by
  have hflag : ∀ (b : Bool) {digits : String} {rest : List Char},
      digits.toList.all isParameter = true → Codes rest →
        Codes ((if b then code digits else []) ++ rest) := fun b _ _ hdigits hrest => by
    cases b
    · exact hrest
    · exact .code hdigits hrest
  obtain ⟨color, bold, dim, underline⟩ := s
  have hflags : Codes ((if bold then code "1" else []) ++ ((if dim then code "2" else []) ++
      ((if underline then code "4" else []) ++ []))) :=
    hflag bold rfl (hflag dim rfl (hflag underline rfl .nil))
  simp only [Style.codes, List.append_assoc, List.append_nil] at hflags ⊢
  cases color with
  | none => exact hflags
  | some c => cases c <;> exact .code rfl hflags

/-- …and so is the one that takes the look away. -/
theorem codes_reset : Codes (code "0") := by
  have hcode : Codes (code "0" ++ []) := .code rfl .nil
  rwa [List.append_nil] at hcode

/-- The styler that terminals understand. -/
def Styler.terminal : Styler := ⟨Style.codes, code "0", codes_style, codes_reset⟩

/-! ## Texts with and without codes -/

namespace Span

/-- The text of a span, without its style. -/
def text : Span → List Char
  | plain t => t
  | styled _ t => t

/-- A span as it is written. -/
def render (styler : Styler) (colors : Bool) : Span → List Char
  | plain t => t
  | styled s t => if colors then styler.before s ++ t ++ styler.after else t

@[simp] theorem render_false (styler : Styler) (s : Span) : s.render styler false = s.text := by
  cases s <;> rfl

end Span

/-- Lines of spans as they are written. -/
def render (styler : Styler) (colors : Bool) (lines : List (List Span)) : List Char :=
  Text.join ['\n'] (lines.map fun line => line.flatMap (Span.render styler colors))

/-- What follows a code, where one stands at the front of a text. -/
def afterCode? : List Char → Option (List Char)
  | c :: '[' :: cs =>
    if c = escapeChar then
      match cs.dropWhile isParameter with
      | d :: rest => if d.isAlpha then some rest else none
      | [] => none
    else none
  | _ => none

theorem length_lt_of_afterCode? {cs rest : List Char} (h : afterCode? cs = some rest) :
    rest.length < cs.length := by
  unfold afterCode? at h
  split at h
  · rename_i c ds
    split at h
    · split at h
      · rename_i d rest' hd
        split at h
        · have hle := (List.dropWhile_sublist (l := ds) isParameter).length_le
          cases h
          rw [hd] at hle
          simp only [List.length_cons] at hle ⊢
          omega
        · cases h
      · cases h
    · cases h
  · cases h

/-- **A text without its codes.** -/
def stripCodes : List Char → List Char
  | [] => []
  | c :: cs =>
    match h : afterCode? (c :: cs) with
    | some rest =>
      have : rest.length ≤ cs.length := Nat.le_of_lt_succ (length_lt_of_afterCode? h)
      stripCodes rest
    | none => c :: stripCodes cs
termination_by cs => cs.length

end ProseLinter.Layout
