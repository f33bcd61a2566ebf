import Micro6502.Config.Load
import Micro6502.Yaml.Document

/-!
# Descriptions as texts

A description is kept as a text in YAML. The text is read into a document first and then into a
description, so that a malformed text is reported before anything that it says.

## Contents

- `parseText`, from a text, and `parseFile`, from the contents of a file
-/

namespace Micro6502.Config

def parseText (text : String) : Except Error SystemSpec :=
  match Yaml.read text with
  | .ok document => parseRoot document
  | .error flaw => .error (.unreadable flaw)

/-- Reads a description from the contents of a file, in which every kind of line end counts as a
line feed. -/
def parseFile (contents : String) : Except Error SystemSpec :=
  parseText (String.ofList (Yaml.withLineFeeds contents.toList))

end Micro6502.Config
