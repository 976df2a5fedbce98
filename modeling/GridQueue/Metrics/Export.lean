/-
# `GridQueue.Metrics.Export` — the metrics in a file

A reader of the file must never see half of it.  So the text is written
to a file beside it, which then takes its name.

    name        the file beside it
    a.prom      a.prom.tmp
    a.v2.txt    a.v2.prom.tmp
    .a          .a.prom.tmp
    a           a.prom.tmp

The file beside it stays where the name is not that of a file.
-/
import GridQueue.Metrics.Exposition
import GridQueue.Table

namespace GridQueue

/-- A folder: the texts of its files by their names. -/
abbrev Folder := Table String String

namespace Folder

def isFileName (name : String) : Bool :=
  name != "" && name != "." && name != ".." && !name.toList.contains '/'

/-- The part of a name before its last point; a point at the front is
part of the name. -/
def stem (name : List Char) : List Char :=
  match name.reverse.dropWhile (· != '.') with
  | [] | [_] => name
  | _ :: before => before.reverse

/-- The name of the file beside it: another ending in place of its own. -/
def besideName (name : String) : String :=
  String.ofList (stem name.toList) ++ ".prom.tmp"

/-- Gives a file another name, which may have been that of another. -/
def rename (f : Folder) (source target : String) : Folder :=
  match f.get? source with
  | none => f
  | some text =>
      Table.ofList ((f.entries.filter fun e => e.1 != source && e.1 != target) ++ [(target, text)])

/-- Replaces a file as a whole, if there can be one of this name. -/
def replace (f : Folder) (name text : String) : Option Folder :=
  let written : Folder := f.insert (besideName name) text
  if isFileName name then some (rename written (besideName name) name) else none

end Folder

def Metrics.writeTo (m : Metrics) (f : Folder) (name : String) : Option Folder :=
  Folder.replace f name m.text

end GridQueue
