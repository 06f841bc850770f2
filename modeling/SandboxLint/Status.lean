import SandboxLint.Markup.Render

/-!
Status lines: what a command says to the user while it works. Each style has a mark
of its own; messages are markup, so texts from outside are escaped first.
-/

namespace SandboxLint
namespace Status

/-- The mark in front of a status line of a style. -/
def mark : String → String
  | "success" => "[green]✓[/green] "
  | "error" => "[red]✗[/red] "
  | "warning" => "[yellow]![/yellow] "
  | _ => ""

/-- A status line as printed. -/
def line (message style : String) (indent : Int) : Except Markup.MarkupError String := do
  let margin := String.ofList (List.replicate indent.toNat ' ')
  return (← Markup.render (margin ++ mark style ++ message)) ++ "\n"

/-- A status line in which nothing is taken for markup. -/
def plainLine (text style : String) : String :=
  match line (Markup.escape text) style 0 with
  | .ok shown => shown
  | .error _ => text ++ "\n"

def loggerName : String := "progress"

end Status
end SandboxLint
