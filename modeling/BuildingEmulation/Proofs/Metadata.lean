import BuildingEmulation.Metadata

/-!
# Names of signals

The three names that are made from a path end in different letters, so names of different kinds never
meet. Two names of one kind meet exactly if their paths start a name in the same way, which they do
even where one has `.` and the other `_`.

Results:
* `inputName_inj`, `activationName_inj`, `outputName_inj`: names of one kind.
* `inputName_ne_activationName` and its kin: names of two kinds.
-/
namespace BuildingEmulation

section

variable {path path' : String}

theorem inputName_inj : inputName path = inputName path' ↔ baseName path = baseName path' :=
  String.append_left_inj _

theorem activationName_inj :
    activationName path = activationName path' ↔ baseName path = baseName path' :=
  String.append_left_inj _

theorem outputName_inj : outputName path = outputName path' ↔ baseName path = baseName path' :=
  String.append_left_inj _

end

variable (path path' : String)

theorem inputName_last : (inputName path).toList.getLast? = some 'u' := by
  simp [inputName]

theorem activationName_last : (activationName path).toList.getLast? = some 'e' := by
  simp [activationName]

theorem outputName_last : (outputName path).toList.getLast? = some 'y' := by
  simp [outputName]

theorem inputName_ne_activationName : inputName path ≠ activationName path' := by
  intro h
  have hlast := inputName_last path
  rw [h, activationName_last] at hlast
  exact absurd hlast (by decide)

theorem outputName_ne_inputName : outputName path ≠ inputName path' := by
  intro h
  have hlast := outputName_last path
  rw [h, inputName_last] at hlast
  exact absurd hlast (by decide)

theorem outputName_ne_activationName : outputName path ≠ activationName path' := by
  intro h
  have hlast := outputName_last path
  rw [h, activationName_last] at hlast
  exact absurd hlast (by decide)

end BuildingEmulation
