import Weblog.CommandLine.Usage
/-!
# Completions

Scripts that let a shell complete the names of commands and of the options that all commands have.

* `completions`: **the script for a shell**.
-/

namespace Weblog.CommandLine

/-- The words that are completed: the names of commands and of options. -/
def completionWords : List String :=
  Level.program.commands.filterMap (·.1.head?) ++ [Level.helpName] ++
    Level.commonOptions.flatMap fun a => a.longNames.map ("--" ++ ·)

def wordList (separator : String) : String :=
  separator.intercalate completionWords

/-- A script of completions for a shell. -/
def completions : Shell → String
  | .bash => "complete -o default -W '" ++ wordList " " ++ "' " ++ programName ++ "\n"
  | .zsh => "#compdef " ++ programName ++ "\n\n_arguments '*:argument:(" ++ wordList " " ++ ")'\n"
  | .fish => "complete -c " ++ programName ++ " -a '" ++ wordList " " ++ "'\n"
  | .powershell =>
    "Register-ArgumentCompleter -Native -CommandName '" ++ programName ++ "' -ScriptBlock \x7b\n" ++
    "    param($word)\n" ++
    "    '" ++ wordList "', '" ++ "' | Where-Object \x7b $_ -like \"$word*\" \x7d\n" ++
    "\x7d\n"

end Weblog.CommandLine
