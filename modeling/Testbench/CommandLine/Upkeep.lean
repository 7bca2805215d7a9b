import Testbench.CommandLine.Session

/-!
# Upkeep — environment, requirements and settings from the command line

- `Session.checkEnvironment`    : see to the environment and tell how it is;
- `Session.installRequirements` : install what the project requires;
- `Session.writeSettings`       : write the default settings;
- `Session.watch`               : follow the edits of the project's files.
-/

namespace Testbench
namespace CommandLine
namespace Session

open Environment (RequirementsStatus)

/-! ## Environment -/

def requirementsLine : RequirementsStatus → String
  | .satisfied => "✅ Requirements satisfied"
  | .unsatisfied => "⚠️  Requirements not satisfied"
  | .unknown => "❔ No requirements file"

def environmentLine : Option Path → String
  | some env => "🐍 Virtualenv: " ++ env.text
  | none => "🐍 No virtualenv in use"

/-- The outcome of the latest check, else of a new one. -/
def requirementsStatus (s : Session) : Work RequirementsStatus := do
  match (← Environment.state s.project).requirements with
  | some status => pure status
  | none => Environment.checkRequirements s.project

/-- What is sent to the terminal runs even if the check fails. -/
def checkEnvironment (s : Session) : Step Unit := do
  let root ← s.root
  print ("📁 Project: " ++ root.text)
  let checked ← Step.ofAttempt (Environment.ensure s.project)
  print (environmentLine (← Environment.state s.project).env)
  print ("   Interpreter: " ++ (Environment.interpreter (← Act.world) root).text)
  let status ← Step.ofWork s.requirementsStatus
  print (requirementsLine status)
  Terminal.appear root
  close
  Step.during "Failed to check the environment" checked

/-! ## Requirements -/

def installRequirements (s : Session) : Step Unit := do
  let root ← s.root
  if ProjectFiles.hasRequirements (← Act.world).files root then
    print ("📦 Installing requirements for " ++ root.text)
    Environment.activate s.project
    Environment.install s.project
    Terminal.appear root
    close
  else
    print ("❌ No requirements.txt in " ++ root.text)
    close

/-! ## Settings -/

def settingsLines (file : Path) : (written : Bool) → List String
  | true => ["✅ Created settings: " ++ file.text]
  | false => ["❌ Settings already exist at: " ++ file.text, "   Use --force to overwrite"]

def writeSettings (s : Session) (force : Bool) : Step Unit := do
  let file := Settings.path (← s.root)
  let outcome ← Project.writeSettings s.project force
  let written ← Step.during ("Failed to write " ++ file.text) outcome
  close
  printAll (settingsLines file written)

/-! ## Watching -/

/-- Watch until the person ends it, which is at once. -/
def watch (s : Session) : Step Unit := do
  let root ← s.root
  Terminal.appear root
  let ready ← Step.ofAttempt (Project.setUp s.project)
  Step.during "Failed to set up the environment" ready
  Project.startWatching s.project
  if ((← Act.world).project s.project).watching then
    print ("👀 Watching " ++ root.text ++ " (Ctrl+C to stop)")
    print "Stopping"
    close
  else abort ("Cannot watch " ++ root.text)

end Session
end CommandLine
end Testbench
