/-
Module: HardwareDatabase.Attachments.EdfRevision
Purpose: The check of a text edit of an EDIF file (`src/src/attachments/edf_revision.py`) over `EdfParser.parse`:
  SpyDrNet, a parameter, and the lightweight parser where it raises or finds no instance.
Trusted boundary: none
-/
import HardwareDatabase.Circuit.OrcadEdif
import HardwareDatabase.Python.Groups

namespace HardwareDatabase.Attachments

open Circuit Python

end HardwareDatabase.Attachments
