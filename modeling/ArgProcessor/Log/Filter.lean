/-
  ArgProcessor/Log/Filter.lean
  ============================
  **Which events reach the log.**

  A filter is a list of directives.  Of those about an event one decides: the one with the
  longest target, of these one that asks for a field, and of equal ones the last.  A filter can
  be given as text, as directives between commas (`LogFilter.ofText?`).
-/
import ArgProcessor.Log.Directive

namespace ArgProcessor

/-- Directives, the later ones replacing earlier ones about the same events. -/
abbrev LogFilter := List LogDirective

namespace LogFilter

/-- Reads a filter; one directive that cannot be read spoils the whole.  A filter without
    directives lets errors through. -/
def ofText? (text : String) : Option LogFilter :=
  let pieces := (text.toList.splitOn ',').filter (!·.isEmpty)
  if pieces.isEmpty then some [{ target := "", rank := LogLevel.error.rank }]
  else pieces.mapM LogDirective.ofChars?

/-- The filter of a run that sets none: everything of this program up to information, or up to
    debugging when asked to be verbose. -/
def usual (verbose : Bool) : LogFilter :=
  [{ target := "argsmith", rank := if verbose then LogLevel.debug.rank else LogLevel.info.rank }]

/-- The filter of a run: the given text if it can be read, else the usual one. -/
def ofSetting (setting : Option String) (verbose : Bool) : LogFilter :=
  (setting.bind ofText?).getD (usual verbose)

def deciding? (f : LogFilter) (e : LogEvent) : Option LogDirective :=
  (f.filter (·.fits e)).foldl
    (fun found new =>
      match found with
      | some old => if old.givesWayTo new then some new else some old
      | none => some new)
    none

def enables (f : LogFilter) (e : LogEvent) : Bool :=
  match f.deciding? e with
  | some d => e.level.rank ≤ d.rank
  | none => false

end LogFilter

end ArgProcessor
