import CorpusShape.Numeric.Amount
import CorpusShape.Settings.Field
/-!
# Settings

All that one analysis can be told: which files to take, how features are weighed, where the ratings lie,
and where reports go.
-/
namespace CorpusShape

/-- How much each feature adds to the volume or the area. -/
structure Weights where
  privateMethod : Amount := .int 1
  internalCall : Amount := .int 1
  internalType : Amount := .int 2
  exportedSymbol : Amount := .int 3
  publicMethod : Amount := .int 2
  externalImport : Amount := .int 2
  outgoingCall : Amount := .int 2
deriving Repr, Inhabited

namespace Weights

def names : List Field.Name :=
  [⟨"private_method", some "privateMethod"⟩, ⟨"internal_call", some "internalCall"⟩,
    ⟨"internal_type", some "internalType"⟩, ⟨"exported_symbol", some "exportedSymbol"⟩,
    ⟨"public_method", some "publicMethod"⟩, ⟨"external_import", some "externalImport"⟩,
    ⟨"outgoing_call", some "outgoingCall"⟩]

/-- The weights by their full names. -/
def toList (w : Weights) : List (String × Amount) :=
  [("private_method", w.privateMethod), ("internal_call", w.internalCall), ("internal_type", w.internalType),
    ("exported_symbol", w.exportedSymbol), ("public_method", w.publicMethod),
    ("external_import", w.externalImport), ("outgoing_call", w.outgoingCall)]

/-- A weight that is given is a positive double; the others keep their standard value. -/
def ofEntries (entries : Entries) : Checked Weights :=
  let standard : Weights := {}
  let weight (full short : String) (default : Amount) : Checked Amount :=
    Field.Name.read ⟨full, some short⟩ entries (fun v => (Field.positive v).map .float) default
  (fun a b c d e f g _ => ⟨a, b, c, d, e, f, g⟩) <$>
    weight "private_method" "privateMethod" standard.privateMethod <*>
    weight "internal_call" "internalCall" standard.internalCall <*>
    weight "internal_type" "internalType" standard.internalType <*>
    weight "exported_symbol" "exportedSymbol" standard.exportedSymbol <*>
    weight "public_method" "publicMethod" standard.publicMethod <*>
    weight "external_import" "externalImport" standard.externalImport <*>
    weight "outgoing_call" "outgoingCall" standard.outgoingCall <*>
    Field.unknown names entries

def ofValue (v : Value) : Checked Weights := (Field.mapping "Weights" v).andThen ofEntries

end Weights

/-- Above which sphericity a module is good, and above which it is only a warning. -/
structure Thresholds where
  good : Float := 10
  warning : Float := 3
deriving Repr, Inhabited

namespace Thresholds

def names : List Field.Name := [⟨"good", none⟩, ⟨"warning", none⟩]

def ofEntries (entries : Entries) : Checked Thresholds :=
  let standard : Thresholds := {}
  (fun good warning _ => ⟨good, warning⟩) <$>
    Field.Name.read ⟨"good", none⟩ entries Field.number standard.good <*>
    Field.Name.read ⟨"warning", none⟩ entries Field.number standard.warning <*>
    Field.unknown names entries

def ofValue (v : Value) : Checked Thresholds := (Field.mapping "Thresholds" v).andThen ofEntries

end Thresholds

inductive MarkdownStyle where
  | full
  | simple
deriving Repr, DecidableEq, Inhabited

namespace MarkdownStyle

def ofValue : Value → Checked MarkdownStyle
  | .text "full" => .ok .full
  | .text "simple" => .ok .simple
  | v => .one .notStyle v

end MarkdownStyle

/-- Where reports are written, seen from the root; a destination that is missing or empty is none. -/
structure ReportSettings where
  json : Option String := some "sphere-report.json"
  markdown : Option String := some "sphere-report.md"
  style : MarkdownStyle := .full
deriving Repr, Inhabited

namespace ReportSettings

def names : List Field.Name :=
  [⟨"json_path", some "json"⟩, ⟨"markdown_path", some "markdown"⟩, ⟨"markdown_style", none⟩]

/-- Names that no field has are passed over. -/
def ofEntries (entries : Entries) : Checked ReportSettings :=
  let standard : ReportSettings := {}
  ReportSettings.mk <$>
    Field.Name.read ⟨"json_path", some "json"⟩ entries (Field.optional Field.text) standard.json <*>
    Field.Name.read ⟨"markdown_path", some "markdown"⟩ entries (Field.optional Field.text) standard.markdown <*>
    Field.Name.read ⟨"markdown_style", none⟩ entries MarkdownStyle.ofValue standard.style

def ofValue (v : Value) : Checked ReportSettings := (Field.mapping "ReportSettings" v).andThen ofEntries

end ReportSettings

structure Settings where
  debug : Bool := false
  root : String
  included : List String := ["src/**/*.ts"]
  excluded : List String := []
  weights : Weights := {}
  alpha : Float := 1.8
  thresholds : Option Thresholds := some {}
  report : ReportSettings := {}
deriving Repr, Inhabited

namespace Settings

/-- The settings for a root. Names that no setting has are passed over. -/
def ofEntries (root : String) (entries : Entries) : Checked Settings :=
  let standard : Settings := { root }
  (fun debug included excluded weights alpha thresholds report =>
      ⟨debug, root, included, excluded, weights, alpha, thresholds, report⟩) <$>
    Field.Name.read ⟨"debug", none⟩ entries Field.truth standard.debug <*>
    Field.Name.read ⟨"include", none⟩ entries Field.texts standard.included <*>
    Field.Name.read ⟨"exclude", none⟩ entries Field.texts standard.excluded <*>
    Field.Name.read ⟨"weights", none⟩ entries Weights.ofValue standard.weights <*>
    Field.Name.read ⟨"alpha", none⟩ entries Field.positive standard.alpha <*>
    Field.Name.read ⟨"thresholds", none⟩ entries (Field.optional Thresholds.ofValue) standard.thresholds <*>
    Field.Name.read ⟨"report", none⟩ entries ReportSettings.ofValue standard.report

end Settings

end CorpusShape
