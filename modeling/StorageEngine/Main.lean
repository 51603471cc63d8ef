import StorageEngine.Demo

/-!
# The demonstration program
-/

/-- Prints the demonstration. -/
def main : IO Unit :=
  IO.print StorageEngine.Demo.output
