import ResSched.Library.CLibrary
import ResSched.Library.Strtok
import ResSched.Model.Cgroup.Supervisor

/-! # Processes forked by a process -/

namespace ResSched.Cgroup

open CLibrary

def MAX_SIZE : Nat := 4096

/-- What opening and reading the procs file of a process gives. -/
inductive ProcsFile where
  | notOpened
  | readError
  | content (text : List Char)

/-- The array of `MAX_SIZE` characters, zero but for what has been read. -/
def fileContent (read : List Char) : List Char :=
  read.take MAX_SIZE ++ List.replicate (MAX_SIZE - read.length) NUL

/-- The moves requested: a process and the group it is to join. -/
def SetThreadGroupSchedPolicy (pid : Int) (policy : SchedPolicy) : List (Int × SchedPolicy) :=
  if pid ≤ 0 then [] else [(pid, policy)]

/-- The body of the loop over the lines. -/
def adjustFork (pid : Int) (record : ProcessRecord) (line : List Char) :
    List (Int × SchedPolicy) :=
  let forkPid := atoi (String.ofList line)
  if forkPid = 0 then []
  else if forkPid ≠ pid then SetThreadGroupSchedPolicy forkPid record.curSchedGroup
  else []

/-- The moves for the process of a record; none when the array is read beyond its end. -/
def AdjustForkProcessGroup (file : ProcsFile) (pid : Int) (record : ProcessRecord) :
    Option (List (Int × SchedPolicy)) :=
  let adjust (read : List Char) :=
    (strtokAll '\n' (fileContent read)).map fun lines => lines.flatMap (adjustFork pid record)
  match file with
  | .notOpened => some []
  | .readError => adjust []
  | .content text => adjust text

end ResSched.Cgroup
