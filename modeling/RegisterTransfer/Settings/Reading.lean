import RegisterTransfer.Decimal.Binary64
import RegisterTransfer.Settings
import RegisterTransfer.Text.Quoted
import RegisterTransfer.Toml.Document

/-!
# Reading settings

Settings are read from a TOML document. A document with a mistake is refused as a whole; otherwise its members
are taken in their order, and the first one that is no setting, or has a value of the wrong type, is reported.
-/

namespace RegisterTransfer

/-- What a setting has to be. -/
inductive SettingType
  | boolean
  | text
  deriving DecidableEq

def SettingType.description : SettingType → String
  | .boolean => "a boolean"
  | .text => "a string"

inductive SettingsError
  /-- No file of that path. -/
  | missingFile (path : String)
  | malformed
  | unknownSetting (name : String)
  | wrongType (found : String) (expected : SettingType)
  /-- An integer or a number that is too large to be shown, or digits that make none. -/
  | unusableNumber
  deriving DecidableEq

namespace Settings

/-- The name of the settings file of a directory. -/
def fileName : String := "hdl_dsl.toml"

/-- The names of all settings. -/
def names : List String :=
  ["warn_signed_condition", "fsm_default_name", "fsm_default_domain", "diagnostic_footer_location"]

end Settings

namespace SettingsError

def quotedName (name : String) : String := s!"`{name}`"

/-- The wording of a refusal; what is wrong with a malformed document is left open. -/
def message : SettingsError → String
  | missingFile path =>
    s!"io error for path {Text.quoted path}: No such file or directory (os error 2)"
  | malformed => "invalid settings file"
  | unknownSetting name =>
    s!"unknown field {quotedName name}, expected one of " ++
      ", ".intercalate (Settings.names.map quotedName)
  | wrongType found expected => s!"invalid type: {found}, expected {expected.description}"
  | unusableNumber => "number cannot be shown"

end SettingsError

namespace Toml

/-- Whether an integer lies in a range of machine words, from `-below` up to and without `limit`. -/
def inWords (value : Int) (below limit : Nat) : Bool := decide (-(below : Int) ≤ value ∧ value < limit)

/-- How an integer is named in a report, up to 128 bits. -/
def integerDescription (value : Int) : Except SettingsError String :=
  if inWords value (Nat.pow 2 63) (Nat.pow 2 64) then .ok s!"integer `{value}`"
  else if inWords value (Nat.pow 2 127) (Nat.pow 2 127) then .ok s!"integer `{value}` as i128"
  else if inWords value 0 (Nat.pow 2 128) then .ok s!"integer `{value}` as u128"
  else .error .unusableNumber

/-- Beyond this many decimal places a number is too large or rounds to zero. -/
def placesLimit : Int := 400

/-- A number in full, with the fewest digits that stand for it. -/
def numberText (number : Number) : Except SettingsError String :=
  match number with
  | .notANumber => .ok "NaN"
  | .infinite negative => .ok (if negative then "-inf" else "inf")
  | .finite negative digits exponent =>
    let sign := if negative then "-" else ""
    let top := exponent + (Nat.toDigits 10 digits).length
    if digits = 0 ∨ top < -placesLimit then .ok (sign ++ "0.0")
    else if placesLimit < top then .error .unusableNumber
    else
      match Decimal.Binary64.nearest? (.scaled 10 digits exponent) with
      | some nearest => .ok (sign ++ nearest.text)
      | none => .error .unusableNumber

/-- How a value is named where another type was expected. -/
def describe : Value → Except SettingsError String
  | .string text => .ok s!"string {Text.quoted text}"
  | .integer (some value) => integerDescription value
  | .integer none => .error .unusableNumber
  | .float number => do return s!"floating point `{← numberText number}`"
  | .boolean value => .ok s!"boolean `{value}`"
  | .array _ | .tables _ => .ok "sequence"
  | .time _ | .table _ _ => .ok "map"

def wrongType {α : Type} (value : Value) (expected : SettingType) : Except SettingsError α :=
  match describe value with
  | .ok found => .error (.wrongType found expected)
  | .error error => .error error

def asBoolean : Value → Except SettingsError Bool
  | .boolean value => .ok value
  | value => wrongType value .boolean

def asText : Value → Except SettingsError String
  | .string text => .ok text
  | value => wrongType value .text

end Toml

namespace Settings

/-- Take over one member of a document. -/
def enter (settings : Settings) (name : String) (value : Toml.Value) : Except SettingsError Settings :=
  if name = "warn_signed_condition" then do
    return { settings with warnSignedCondition := ← Toml.asBoolean value }
  else if name = "fsm_default_name" then do
    return { settings with fsmDefaultName := ← Toml.asText value }
  else if name = "fsm_default_domain" then do
    return { settings with fsmDefaultDomain := ← Toml.asText value }
  else if name = "diagnostic_footer_location" then do
    return { settings with diagnosticFooterLocation := ← Toml.asBoolean value }
  else .error (.unknownSetting name)

def enterAll : Settings → Toml.Members → Except SettingsError Settings
  | settings, [] => .ok settings
  | settings, (name, value) :: rest => do enterAll (← settings.enter name value) rest

/-- The settings of a document; what it leaves open has its default. -/
def ofToml (text : String) : Except SettingsError Settings :=
  match Toml.document text with
  | none => .error .malformed
  | some members => enterAll {} members

/-- The settings of a file, given what it holds if it is there. -/
def ofFile (path : String) (content : Option String) : Except SettingsError Settings :=
  match content with
  | none => .error (.missingFile path)
  | some text => ofToml text

/-- The settings of a directory, given what its settings file holds if there is one. -/
def ofDirectory (content : Option String) : Except SettingsError Settings :=
  match content with
  | none => .ok {}
  | some text => ofToml text

end Settings

end RegisterTransfer
