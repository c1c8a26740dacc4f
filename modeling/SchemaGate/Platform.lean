import SchemaGate.Encoding.Codec
import SchemaGate.Settings.File
import SchemaGate.Xml.BuiltIn
import SchemaGate.Yaml.Library

/-!
Platforms. A program works on a platform: with codecs, an engine for documents and formats of settings
files, whichever they are. A platform of its own is built in.
-/

namespace SchemaGate

/-- What a program works with and does not make itself. -/
structure Platform where
  codecs : Codecs
  engine : Xml.Engine
  formats : Settings.Formats

/-- The platform of a program that has no other. -/
def Platform.builtIn : Platform := ⟨.plain, .builtIn, some Yaml.library, none⟩

end SchemaGate
