import DirectiveBinding.Json.Record
import DirectiveBinding.Text.Caseless

/-! What can be chosen about matching and resolution. -/
namespace DirectiveBinding

open Json Text

/-- Tag of the element that a star attribute stands for. -/
def templateTag : String := "ng-template"

structure Settings where
  /-- Tags of template elements, on which structural directives stand. -/
  templateTags : List String := [templateTag]
  /-- Whether values that are known are compared with values asked for; otherwise presence
  decides. -/
  matchAttributeValues : Bool := true
deriving DecidableEq, Repr, Inhabited

def Settings.isTemplateTag (s : Settings) (tag : String) : Bool :=
  s.templateTags.any fun t => sameCaseless t tag

/-! ### Reading settings -/

inductive SettingsField where
  | templateTags
  | matchAttributeValues
deriving DecidableEq, Repr

/-- Settings as a record. Nothing is required, and what is absent keeps its default. -/
def settingsLayout : Layout SettingsField Settings where
  title := "struct ResolverConfig"
  fields := [.templateTags, .matchAttributeValues]
  named?
    | "templateTags" => some .templateTags
    | "matchAttributeValues" => some .matchAttributeValues
    | _ => none
  label
    | .templateTags => "templateTags"
    | .matchAttributeValues => "matchAttributeValues"
  isRequired _ := false
  decode
    | .templateTags, r, s => r.asTexts.map fun tags => { s with templateTags := tags }
    | .matchAttributeValues, r, s => r.asBool.map fun b => { s with matchAttributeValues := b }

def Settings.decode (text : String) : Except Fault Settings :=
  decodeStreamed (settingsLayout.read .streamed {}) text

/-- The wording of settings of the wrong shape. -/
def Settings.mismatchMessage (m : Mismatch) : String :=
  "invalid resolver configuration: " ++ m.message

end DirectiveBinding
