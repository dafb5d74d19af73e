import LoxTokenizer.Scan.Stream

namespace LoxTokenizer

/-!
Scanning a whole source: its stream is drained, and what went to the sink on the way is kept
beside the tokens.
-/

/-- The tokens of a source, the errors met on the way, and what the scan told about itself. -/
structure ScanResult where
  tokens : List Token
  errors : List ScanError
  events : List ScanEvent
  deriving DecidableEq

/-- Scans a source and reports its errors to a sink. -/
def scanInto {σ : Type} [ErrorSink σ] (sink : σ) (source : String) : List Token × σ :=
  let drained := (TokenStream.ofSource source sink).drain
  (drained.tokens, drained.stream.sink)

namespace Scan

def scanText (text : List Char) : ScanResult :=
  let drained := (TokenStream.ofText text ErrorLog.empty).drain
  { tokens := drained.tokens
    errors := drained.stream.sink.errors
    events := drained.events }

end Scan

def scan (source : String) : ScanResult := Scan.scanText source.toList

def scanAll (sources : List String) : List ScanResult := sources.map scan

namespace ScanResult

def hadError (result : ScanResult) : Bool := !result.errors.isEmpty

end ScanResult

end LoxTokenizer
