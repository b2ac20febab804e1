import SqlMapping.CommandLine.Argument
import SqlMapping.Number.Integer

/-!
# Reading the command line

Arguments are read from the left. Short switches without a value may stand together in one
argument; the last of them may take a value. Everything that means nothing is collected and refused
at the end.
-/

namespace SqlMapping.CommandLine

open SqlMapping.Number

/-- Why a command line asks for no generation. -/
inductive Stop where
  /-- Help is asked for. -/
  | help
  /-- The version is asked for. -/
  | version
  /-- Something is wrong. -/
  | misuse (m : Misuse)
deriving DecidableEq

/-- What one argument comes to: the switches in it with their values, and what is left. -/
structure Cluster where
  /-- The switches that are complete. -/
  complete : List (Switch × Option String)
  /-- The last switch, if its value has to follow. -/
  pending : Option Switch := none
  /-- The rest that means nothing. -/
  surplus : Option String := none

namespace Cluster

/-- A cluster with one more switch in front. -/
def cons (switch : Switch) (c : Cluster) : Cluster :=
  { c with complete := (switch, none) :: c.complete }

/-- The cluster of a switch that nothing is attached to. -/
def ofSwitch (switch : Switch) : Cluster :=
  if switch.takesValue then ⟨[], some switch, none⟩ else ⟨[(switch, none)], none, none⟩

/-- The cluster of a switch of a short spelling that a text is attached to. -/
def ofShort (switch : Switch) (isAssigned : Bool) : List Char → Except Misuse Cluster
  | [] =>
    if switch.takesValue then .ok ⟨[(switch, some "")], none, none⟩
    else .error (.uselessValue switch "")
  | c :: rest =>
    let text := String.ofList (c :: rest)
    if switch.takesValue then .ok ⟨[(switch, some text)], none, none⟩
    else if isAssigned || c == '-' then .error (.uselessValue switch text)
    else match Switch.ofSpelling? (String.ofList ['-', c]) with
      | none => .ok ⟨[(switch, none)], none, some ("-" ++ text)⟩
      | some next => match rest with
        | [] => .ok ((ofSwitch next).cons switch)
        | '=' :: value => (ofShort next true value).map (cons switch)
        | d :: more => (ofShort next false (d :: more)).map (cons switch)

/-- The cluster of a switch of a long spelling that a text is attached to. -/
def ofLong (switch : Switch) (text : List Char) : Except Misuse Cluster :=
  if switch.takesValue then .ok ⟨[(switch, some (String.ofList text))], none, none⟩
  else .error (.uselessValue switch (String.ofList text))

/-- The cluster of a switch. -/
def ofAttached (switch : Switch) (isLong : Bool) : Attached → Except Misuse Cluster
  | .nothing => .ok (ofSwitch switch)
  | .adjoined text => if isLong then ofLong switch text else ofShort switch false text
  | .assigned text => if isLong then ofLong switch text else ofShort switch true text

end Cluster

/-- What is read so far. -/
structure Reading where
  /-- The path of the document. -/
  document : Option String := none
  /-- The options. -/
  options : Options := {}
  /-- The arguments that mean nothing. -/
  surplus : List String := []

namespace Reading

/-- The reading with one more argument that means nothing. -/
def addSurplus (r : Reading) (argument : String) : Reading :=
  { r with surplus := r.surplus ++ [argument] }

/-- The reading with other options. -/
def withOptions (r : Reading) (change : Options → Options) : Reading :=
  { r with options := change r.options }

/-- The number of workers that a value denotes. -/
def readWorkers (value : String) : Except Stop Int :=
  match readInteger value.toList with
  | .ok n => .ok n
  | .error _ => .error (.misuse (.notInteger .workers value))

/-- The form that a value names. -/
def readFormat (value : String) : Except Stop OutputFormat :=
  match OutputFormat.ofName? value with
  | some format => .ok format
  | none => .error (.misuse (.notOneOf .format value (OutputFormat.all.map OutputFormat.name)))

/-- The reading after one switch with its value. -/
def apply (r : Reading) (switch : Switch) (value : String) : Except Stop Reading :=
  match switch with
  | .help => .error .help
  | .version => .error .version
  | .schema => .ok { r with document := some value }
  | .output => .ok (r.withOptions fun o => { o with output := some value })
  | .format => (readFormat value).map fun format => r.withOptions fun o => { o with format }
  | .validateOnly => .ok (r.withOptions fun o => { o with validatesOnly := true })
  | .allowSeveralKeys => .ok (r.withOptions fun o => { o with allowsSeveralKeys := true })
  | .rejectUntyped => .ok (r.withOptions fun o => { o with rejectsUntyped := true })
  | .workers => (readWorkers value).map fun n => r.withOptions fun o => { o with workers := some n }
  | .verbose => .ok (r.withOptions fun o => { o with verbosity := o.verbosity + 1 })
  | .quiet => .ok (r.withOptions fun o => { o with isQuiet := true })

/-- The reading after several switches. -/
def applyAll (r : Reading) (switches : List (Switch × Option String)) : Except Stop Reading :=
  switches.foldlM (fun r (switch, value) => r.apply switch (value.getD "")) r

/-- The reading after a cluster whose pending switch has been given its value. -/
def addCluster (r : Reading) (c : Cluster) : Except Stop Reading :=
  match c.surplus with
  | some text => (r.addSurplus text).applyAll c.complete
  | none => r.applyAll c.complete

/-- The reading after arguments. -/
def readAll : Reading → List Argument → Except Stop Reading
  | r, [] => .ok r
  | r, .value text :: rest => readAll (r.addSurplus text) rest
  | r, .unknown text :: rest => readAll (r.addSurplus text) rest
  | r, .divider :: rest => readAll (r.addSurplus "--") rest
  | r, .spelled switch isLong attached :: rest =>
    match Cluster.ofAttached switch isLong attached with
    | .error m => .error (.misuse m)
    | .ok cluster =>
      match cluster.pending with
      | none => do
        let r ← r.addCluster cluster
        readAll r rest
      | some last =>
        match rest with
        | .value text :: rest => do
          let r ← r.applyAll (cluster.complete ++ [(last, some text)])
          readAll r rest
        | _ => .error (.misuse (.missingValue last))

/-- The request that a reading comes to. -/
def request (r : Reading) : Except Stop Request :=
  match r.document with
  | none => .error (.misuse (.missingSwitch .schema))
  | some document =>
    if r.surplus.isEmpty then .ok ⟨document, r.options⟩
    else .error (.misuse (.surplus r.surplus))

end Reading

/-- The request of a command line. -/
def Request.ofArguments (arguments : List String) : Except Stop Request := do
  let kinds ← (Argument.ofTexts arguments).mapError .misuse
  let reading ← Reading.readAll {} kinds
  reading.request

end SqlMapping.CommandLine
