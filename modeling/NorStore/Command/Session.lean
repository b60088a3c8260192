/-
# The program on a file tree

A run of the program looks up its image file in the tree of the host and leaves the
tree that the command made of it.
-/

import NorStore.Command.Line
import NorStore.Host.Tree

namespace NorStore.Command

/-- Run the program on a command line. An image that cannot be written fails the
command, which then has not printed anything. -/
def runOn (tree : Host.Tree) (arguments : List String) : Exit × Host.Tree :=
  let invocation := Invocation.ofArguments arguments
  match invocation.toOption.bind Invocation.path? with
  | none => (runProgram invocation .absent, tree)
  | some path =>
    let exit := runProgram invocation (tree.look path)
    match exit.image with
    | .absent => (exit, tree)
    | .directory => (exit, tree)
    | .file content =>
      match tree.writeFile path content with
      | (true, reached) => (exit, reached)
      | (false, reached) =>
        ({ code := some 1, complaint := some "the image cannot be written" }, reached)

end NorStore.Command
