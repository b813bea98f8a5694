import ClassDiagram.CommandLine.Arguments
import ClassDiagram.CommandLine.Usage
import ClassDiagram.Plan
import ClassDiagram.Registry

/-! # Runs of the command line

A run reads a record file, draws it and delivers the text to a file or the standard output. It is
planned from its options alone. Events within the drawing of a diagram are not logged.
-/

namespace ClassDiagram

def Text.decode (bytes : ByteArray) : Except SystemFault String :=
  match String.fromUTF8? bytes with
  | some text => .ok text
  | none => .error (.worded "stream did not contain valid UTF-8")

namespace Options

/-- The text of the record file, from what is found under its path. -/
def source (o : Options) (found : Except SystemFault ByteArray) : Except Failure String :=
  (found.bind Text.decode).mapError (.unreadableSource o.input)

def draw (o : Options) (text : String) : Except Failure Rendering :=
  Registry.standard.renderWithout o.notationKey o.ignored (Text.lines text)

/-- The diagram as it is delivered. A strict run delivers none that has a defect. -/
def deliverable (o : Options) (r : Rendering) : Except Failure String :=
  if o.strict && !r.isClean then .error (.strictDefects r.defects.length o.input)
  else .ok (Text.terminated r.text)

/-- The file that the diagram goes to; a single dash stands for the standard output. -/
def target? (o : Options) : Option String :=
  o.output?.filter (· != "-")

def versionNote : String :=
  Program.name ++ " v" ++ Program.version

def sizeNote (text : String) : String :=
  "Read " ++ toString text.utf8ByteSize ++ " bytes of input"

def defectNote (d : Defect) : String :=
  "Skipped malformed record: " ++ d.message

def countNote (o : Options) (r : Rendering) : String :=
  "Rendered " ++ toString r.entityCount ++ " entities and " ++ toString r.relationCount ++
    " relations as " ++ o.notationKey

/-- Notes are for verbose runs only. -/
def note (o : Options) (text : String) (next : Plan) : Plan :=
  if o.verbose then .say (text ++ "\n") next else next

def notes (o : Options) (texts : List String) (next : Plan) : Plan :=
  texts.foldr o.note next

/-- Installs a logger. Variables of the environment go before the options, and a run goes on without
a logger of its own if there can be none. -/
def withLogger (o : Options) (next : Plan) : Plan :=
  .ask "UMLSCRIBE_LOG_LEVEL" fun level? =>
    .ask "RUST_LOG" fun filter? =>
      .ask "UMLSCRIBE_LOG_FORMAT" fun format? =>
        .install ((level?.or filter?).getD o.logLevel.name) (format?.getD o.logFormat.name) fun
          | .ok _ => next
          | .error e => .log ⟨.debug, "Logging already initialized: " ++ e.message, []⟩ next

/-- Draws the record file and goes on with the diagram. -/
def withRendering (o : Options) (next : Rendering → Plan) : Plan :=
  .look o.input fun isThere =>
    if isThere then
      .read o.input fun found =>
        .attempt (o.source found) fun text =>
          o.note (sizeNote text) <|
            .attempt (o.draw text) fun r =>
              o.notes (r.defects.map defectNote ++ [o.countNote r]) <|
                .log ⟨.info, "Rendered record file",
                  [("path", o.input), ("notation", o.notationKey)]⟩ (next r)
    else .fail (.missingSource o.input)

/-- The text goes to one place. -/
def deliver (o : Options) (text : String) : Plan :=
  match o.target? with
  | none => .print text (.finish 0)
  | some path =>
    .write path text.toUTF8 fun
      | .ok _ => .finish 0
      | .error fault => .fail (.unwritableTarget path fault)

def plan (o : Options) : Plan :=
  o.withLogger <|
    o.note versionNote <|
      o.withRendering fun r => .attempt (o.deliverable r) o.deliver

end Options

def Halt.plan : Halt → Plan
  | help => .print Program.helpText (.finish help.exitCode)
  | version => .print Program.versionText (.finish version.exitCode)
  | refused e =>
    .say ("error: " ++ e.message ++ "\n\n" ++ Program.usageText) (.finish (refused e).exitCode)

/-- What the program does with these arguments. -/
def Plan.ofArguments (args : List String) : Plan :=
  match Options.ofArguments args with
  | .error h => h.plan
  | .ok o => o.plan

end ClassDiagram
