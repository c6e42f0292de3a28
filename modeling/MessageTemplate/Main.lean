import MessageTemplate.Command.Interpolate
/-! The `interpolate` program. -/

/-- Run the `interpolate` command as a process. -/
def main (args : List String) : IO UInt32 := do
  let e := (MessageTemplate.Command.execute args).exit
  IO.print e.stdout
  IO.eprint e.stderr
  pure e.code
