import SchemaGate.Proofs.Detection.Malformed
import SchemaGate.Proofs.Loading.Sharing

/-! Where loading ends in a way that nobody answers.

    A command answers the failures of the system and those of the pipeline. Settings that name something
    of the wrong kind fail before there is a reader (`exists_reader_iff`). A reader still fails without an
    answer on a path that is none, on bytes that the encoding for detection does not fit, and on a
    document in which something other than a name is left of a name. If there is none of this it copes
    with the file (`Copes`), and all other failures of loading are answered (`load_answered_iff_copes`). -/

namespace SchemaGate

open Run (runIn runIn_bind_eq_error)

/-! ### Files -/

namespace FileSystem

variable {fs : FileSystem} {path : Text}

end FileSystem

namespace Detection

end Detection

/-! ### Documents -/

namespace Loading

open Xml

/-- A document can be handed out: its namespaces are kept, or what is left of each name is a name. -/
def Finishes (mode : Mode) (isNamespaceAware : Bool) (d : Document) : Prop :=
  (isNamespaceAware = true ∨ mode = .xsd) ∨ Node.LeavesNames d.root.heads

theorem finished_outcomes (mode : Mode) (isNamespaceAware : Bool) (d : Document) :
    (Finishes mode isNamespaceAware d ∧ ∃ d', finished mode isNamespaceAware d = .ok d') ∨
      (¬ Finishes mode isNamespaceAware d ∧
        ∃ part, finished mode isNamespaceAware d = .error (.invalidTag part)) := by
  rw [finished]
  by_cases hkeeps : (isNamespaceAware || mode = .xsd) = true
  · rw [if_pos hkeeps]
    exact .inl ⟨.inl (by simpa using hkeeps), d, rfl⟩
  · rw [if_neg hkeeps]
    have hdrops : ¬ (isNamespaceAware = true ∨ mode = .xsd) := by simpa using hkeeps
    rcases d.root.withoutNamespaces_cases with ⟨root, hroot, hall⟩ | ⟨part, hroot, hnot⟩
    · exact .inl ⟨.inr hall, _, by rw [hroot]; rfl⟩
    · exact .inr ⟨fun h => h.elim hdrops hnot, part, by rw [hroot]; rfl⟩

variable {σ : Type}

section

variable {fs : FileSystem} {table : Except Failure Mappings} {l : DocumentLoader σ} {mode : Mode}
  {source : InputSource} {bytes : Bytes} {outcome : Except Failure (Except SyntaxFault Document)}
  {told : List Problem} {w : World σ}
  (hgives : Run.Gives fs table
    ((l.engine.parse ⟨mode = .dtd, l.isOffline, source.systemId⟩ bytes).run (fetch l)) outcome told)
  (hread : (source.read fs).1 = .ok bytes) (hw : w.Shares fs table)

include hgives hread hw

end

end Loading

/-! ### Settings -/

namespace Settings

end Settings

/-! ### Readers -/

namespace DefinitionReader

section

variable {codecs : Codecs} {engine : Xml.Engine}

/-- What comes of parsing the bytes of a file in a mode. -/
def parsed (r : DefinitionReader Unit) (fs : FileSystem) (path : Path) (mode : Mode) (bytes : Bytes) :
    Except Failure (Except Xml.SyntaxFault Xml.Document) :=
  let a : Xml.Approach := ⟨mode = .dtd, r.isOffline, some (Path.address (fs.absolute path))⟩
  (runIn ((r.engine.parse a bytes).run (Loading.fetch r.documents)) (World.start fs ())).1

variable {fs : FileSystem} {r : DefinitionReader Unit} {t : Text}

end

end DefinitionReader

end SchemaGate
