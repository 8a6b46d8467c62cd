import Bringup.CommandLine.Arguments
import Bringup.Text.Wrap
/-!
# Help

Help on the program or on one of its commands: what it does, how it is called, and what it
takes. The descriptions in a listing are aligned and wrapped. Headings and what is typed as it
stands are set off by escape sequences.
-/

namespace Bringup.CommandLine

/-- The escape sequences that text may be set off by. -/
inductive Emphasis where
  | bold
  | underlinedBold

/-- Text between the sequence that sets it off and the one that ends that. -/
def Emphasis.around (emphasis : Emphasis) (text : String) : String :=
  let lead := match emphasis with
    | .bold => "\x1b[1m"
    | .underlinedBold => "\x1b[1m\x1b[4m"
  lead ++ text ++ "\x1b[0m"

/-- What is typed as it stands. -/
def literal (text : String) : String := Emphasis.bold.around text

/-- A heading. -/
def heading (text : String) : String := Emphasis.underlinedBold.around text

/-- An entry of a listing: what it is called, both plain and set off, and a description. -/
structure Entry where
  name : String
  shown : String
  about : String

/-- A listing. -/
abbrev Listing : Type := List Entry

/-- The columns of a line of help. -/
def helpWidth : Nat := 100

/-- The lines of a listing under a heading, with an empty line before them; nothing if the
listing is empty. Further lines of a description are indented as the first. -/
def Listing.lines (title : String) (listing : Listing) : List String :=
  let width := (listing.map (·.name.length)).foldl max 0
  let indent := width + 4
  if listing.isEmpty then []
  else "" :: heading (title ++ ":") :: listing.map fun entry =>
    let gap := String.ofList (List.replicate (width - entry.name.length) ' ')
    let about := (Text.wrap (helpWidth - indent) entry.about).replace "\n"
      ("\n" ++ String.ofList (List.replicate indent ' '))
    "  " ++ entry.shown ++ gap ++ "  " ++ about

namespace OptionSpec

/-- The place of the value of an option. -/
def valueForm (option : OptionSpec) : String :=
  let value := "<" ++ option.valueName ++ ">"
  " " ++ if option.bare then "[" ++ value ++ "]" else value

/-- An option with its value, set off as it is written. -/
def form (option : OptionSpec) : String := literal ("--" ++ option.name) ++ option.valueForm

/-- What an option is for, which variable stands in for it, and its default. -/
def description (environment : List (String × String)) (option : OptionSpec) : String :=
  let about := if option.about.isEmpty then [] else [option.about]
  let standIn := option.key.map fun key =>
    "[env: " ++ key ++ "=" ++ (environment.lookup key).getD "" ++ "]"
  let default := option.default.map fun text => "[default: " ++ text ++ "]"
  " ".intercalate (about ++ standIn.toList ++ default.toList)

/-- The entry of an option. -/
def entry (environment : List (String × String)) (option : OptionSpec) : Entry where
  name := "    --" ++ option.name ++ option.valueForm
  shown := "    " ++ option.form
  about := option.description environment

end OptionSpec

/-- Options by their place among those they are declared with, and then by name. -/
def sortedOptions (groups : List (List OptionSpec)) : List OptionSpec :=
  let placed := groups.flatMap fun group => group.zipIdx
  (placed.mergeSort fun (a, place) (b, other) =>
    place < other || (place == other && decide (a.name ≤ b.name))).map Prod.fst

/-- The listing of options, with the one that asks for help at the end. -/
def optionListing (environment : List (String × String)) (groups : List (List OptionSpec)) :
    Listing :=
  (sortedOptions groups).map (·.entry environment)
    ++ [⟨"-h, --help", literal "-h" ++ ", " ++ literal "--help", "Print help"⟩]

/-- What the program is for. -/
def programAbout : String := "Host tools for the xw computer"

/-- What the command that gives help is for. -/
def helpAbout : String := "Print this message or the help of the given subcommand(s)"

/-- How something is called, given its name and what follows it. -/
def usage (name : String) (values : List String) : String :=
  " ".intercalate (heading "Usage:" :: literal name :: values)

/-- Help on the program. -/
def programHelp (environment : List (String × String)) : List String :=
  let listing := (commands.map (fun command => (command.name, command.about))
    ++ [("help", helpAbout)]).map fun (name, about) => Entry.mk name (literal name) about
  [programAbout, "", usage "xw" ["[OPTIONS]", "<COMMAND>"]]
    ++ Listing.lines "Commands" listing
    ++ Listing.lines "Options" (optionListing environment [connectionOptions])

/-- Help on a command. -/
def commandHelp (environment : List (String × String)) (command : CommandSpec) : List String :=
  let values := command.values.map fun name => "<" ++ name ++ ">"
  let required := (command.options.filter (·.required)).map OptionSpec.form
  [command.about, "", usage ("xw " ++ command.name) (["[OPTIONS]"] ++ required ++ values)]
    ++ Listing.lines "Arguments" (values.map fun value => ⟨value, value, ""⟩)
    ++ Listing.lines "Options" (optionListing environment [connectionOptions, command.options])

/-- Help on the command that gives help. -/
def helpHelp : List String :=
  let value := "[COMMAND]..."
  [helpAbout, "", usage "xw help" [value]]
    ++ Listing.lines "Arguments" [⟨value, value, "Print help for the subcommand(s)"⟩]

/-- The help that is wanted, as lines. -/
def helpLines (environment : List (String × String)) : HelpTopic → List String
  | .program => programHelp environment
  | .command command => commandHelp environment command
  | .help => helpHelp

/-- Whether escape sequences are kept in what is shown though no terminal shows it. -/
def keepsEscapes (environment : List (String × String)) : Bool :=
  (environment.lookup "NO_COLOR").all (·.isEmpty)
    && (environment.lookup "CLICOLOR_FORCE").any (· != "0")

/-- The help that is wanted. -/
def help (environment : List (String × String)) (topic : HelpTopic) : String :=
  let text := String.join ((helpLines environment topic).map (· ++ "\n"))
  if keepsEscapes environment then text else Text.withoutEscapes text

end Bringup.CommandLine
