import EnergyReport.Document.Page
import EnergyReport.Report.Injection

namespace EnergyReport.Document

/-! From an uploaded document to the finished report.

Three stages are replaceable and may fail: reading the document's text, putting it into
plain words, and delivering the finished report. The steps between them cannot fail. -/

inductive PipelineError where
  | extraction (reason : String)
  | simplification (reason : String)
  | delivery (reason : String)
  deriving Repr, DecidableEq

def PipelineError.message : PipelineError → String
  | .extraction reason => "Extraction failed: " ++ reason
  | .simplification reason => "Vulgarization failed: " ++ reason
  | .delivery reason => "Rendering failed: " ++ reason

structure Pipeline where
  extract : ByteArray → Except PipelineError String
  simplify : String → Except PipelineError String
  deliver : String → Except PipelineError ByteArray

namespace Pipeline

/-- Reads a document as UTF-8 text. -/
def extractPlainText (document : ByteArray) : Except PipelineError String :=
  match Text.decodeUtf8 document with
  | .ok text => .ok text
  | .error fault => .error (.extraction fault.message)

/-- The stages for a text that is already written as a report, delivered as bytes. -/
def plain : Pipeline where
  extract := extractPlainText
  simplify := .ok
  deliver := fun html => .ok html.toUTF8

/-- Runs the stages one after the other, up to the first that fails. -/
def run (pipeline : Pipeline) (files : Files) (document : ByteArray) (options : Options) :
    Except PipelineError ByteArray := do
  let text ← pipeline.extract document
  let report ← pipeline.simplify text
  let injected := Report.injectCharts report.toList
  pipeline.deliver (assemble files injected options)

end Pipeline

end EnergyReport.Document
