import OpScaffold.Failure
import OpScaffold.Pattern.Basic

/-!
# OpScaffold.Registry.Validation

Registries that could never be applied are rejected before any file is read. Each entry must be
listed once, have an anchor that is not blank and be expected somewhere; its template must render
for a sample variant, and its pattern must be one.

Templates that name a field that does not exist, and malformed ones, are faults of the registry.
Templates that misuse a field that does exist fail by themselves, and so do patterns that are well
worded and cannot be carried out.
-/

namespace OpScaffold.Registry

/-- The variant for which templates are tried out. -/
def sample : Variant := ⟨"probe".toList, "PROBE".toList⟩

/-- Renders the template of an entry for the sample. -/
def checkTemplate (entry : Entry) : Except Failure Unit :=
  match entry.render sample with
  | .ok _ => .ok ()
  | .error e =>
    .error (if e.isBadTemplate then .registry (.badTemplate entry e) else .template e)

/-- Reads the pattern of an entry; here the empty pattern is a pattern too. -/
def checkBlockEnd (entry : Entry) : Except Failure Unit :=
  match entry.blockEnd with
  | none => .ok ()
  | some text =>
    match Pattern.ofText text with
    | .ok _ => .ok ()
    | .error e =>
      .error (match e.refusal with
        | .fault _ _ => .registry (.badBlockEnd entry e)
        | .rivalCharacterSets | .tooManyRepetitions | .tooManyDigits _ | .distantLookbehind =>
          .pattern e)

/-- Checks an entry, with the entries that stand before it. -/
def checkEntry (before : List Entry) (entry : Entry) : Except Failure Unit :=
  if before.any fun e => e.path == entry.path && e.anchor == entry.anchor then
    .error (.registry (.repeatedEntry entry))
  else if entry.anchor.isBlankText then .error (.registry (.blankAnchor entry.path))
  else if entry.expected < 1 then .error (.registry (.noneExpected entry))
  else
    match checkTemplate entry with
    | .error e => .error e
    | .ok () => checkBlockEnd entry

/-- Checks entries in their order, behind those of `before`. -/
def checkEntries (before : List Entry) : List Entry → Except Failure Unit
  | [] => .ok ()
  | entry :: rest =>
    match checkEntry before entry with
    | .error e => .error e
    | .ok () => checkEntries (entry :: before) rest

/-- Rejects a registry that could never be applied. -/
def validate (entries : List Entry) : Except Failure Unit :=
  if entries.isEmpty then .error (.registry .noEntries) else checkEntries [] entries

end OpScaffold.Registry
