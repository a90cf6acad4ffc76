import DrawSubmission.Pipeline
import DrawSubmission.Text.Stretches
set_option autoImplicit false

namespace DrawSubmission

namespace Text

/-- The ranges of code points with the Unicode property White_Space, ends included. It is wider than
the white space of `Char.isWhitespace`. -/
def whiteSpaceRanges : List (Nat × Nat) :=
  [(0x0009, 0x000d), (0x0020, 0x0020), (0x0085, 0x0085), (0x00a0, 0x00a0), (0x1680, 0x1680),
   (0x2000, 0x200a), (0x2028, 0x2029), (0x202f, 0x202f), (0x205f, 0x205f), (0x3000, 0x3000)]

def isWhiteSpace (c : Char) : Bool :=
  whiteSpaceRanges.any fun range => range.1 ≤ c.toNat && c.toNat ≤ range.2

end Text

inductive FrontFace where
  | ccw
  | cw
deriving DecidableEq

def FrontFace.name : FrontFace → String
  | ccw => "Ccw"
  | cw => "Cw"

def debugFlagKind : FlagKind :=
  ⟨"DebugFlags", 32, [⟨"WIREFRAME", 1⟩, ⟨"DISABLE_BLENDING", 2⟩, ⟨"DISABLE_TEXTURING", 4⟩]⟩

abbrev DebugFlags := FlagSet debugFlagKind

namespace DebugFlags

def wireframe : DebugFlags := ⟨1⟩
def disableBlending : DebugFlags := ⟨2⟩
def disableTexturing : DebugFlags := ⟨4⟩
def all : DebugFlags := (wireframe.union disableBlending).union disableTexturing

def isSeparator (c : Char) : Bool := c == ',' || Text.isWhiteSpace c

def normalizeChar (c : Char) : Char := if c = '_' then '-' else c.toLower

def tokens (list : String) : List String :=
  (Text.runs isSeparator list.toList).map fun token => String.ofList (token.map normalizeChar)

def ofToken? (token : String) : Option DebugFlags :=
  if token = "all" then some all
  else if token = "wireframe" then some wireframe
  else if token = "disable-blending" then some disableBlending
  else if token = "disable-texturing" then some disableTexturing
  else none

def parse (list : String) : DebugFlags × List String :=
  let words := tokens list
  ((words.filterMap ofToken?).foldl .union .empty, words.filter fun word => (ofToken? word).isNone)

/-- The flags of an environment value; an unset value and malformed text name none. -/
def ofEnvironment (value : Option ByteArray) : DebugFlags × List String :=
  match value.bind String.fromUTF8? with
  | some list => parse list
  | none => (.empty, [])

end DebugFlags

structure DrawSettings where
  debugFlags : DebugFlags := .empty
  backfaceCulling : Bool := false
  frontFace : FrontFace := .ccw
  legacy : Option LegacyState := none
deriving DecidableEq, Inhabited

def optionText {α : Type} (text : α → String) : Option α → String
  | none => "None"
  | some value => "Some(" ++ text value ++ ")"

def Fog.text (fog : Fog) : String :=
  "Fog \x7b color: " ++ fog.color.text ++ ", density: " ++ fog.density.text ++ " \x7d"

def LegacyState.text (state : LegacyState) : String :=
  "LegacyState \x7b depth_test: " ++ optionText toString state.depthTest ++ ", fog: "
    ++ optionText Fog.text state.fog ++ " \x7d"

def DrawSettings.text (settings : DrawSettings) : String :=
  "DrawSettings \x7b debug_flags: " ++ settings.debugFlags.text ++ ", backface_culling: "
    ++ toString settings.backfaceCulling ++ ", front_face: " ++ settings.frontFace.name
    ++ ", legacy_state: " ++ optionText LegacyState.text settings.legacy ++ " \x7d"

end DrawSubmission
