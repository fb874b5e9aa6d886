import Interop.Arguments.Parse
import Interop.Command.Run
import Interop.Json.Writer
import Interop.Log.Filter

namespace Interop.Command

/-- The libraries that come with this project, for running the program. -/
def builtin : Libraries where
  arguments := Arguments.parser commandLine
  printer := Json.writer
  logger := Log.logger

end Interop.Command
