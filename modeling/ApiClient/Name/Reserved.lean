/-!
# Reserved identifiers

The identifiers that the generated module cannot give to its own declarations: the keywords of
its language, the names its language predefines, and those that the module imports or brings
along.
-/

namespace ApiClient.Name

def keywords : List String := [
    "False", "None", "True", "and", "as", "assert", "async", "await", "break", "class",
    "continue", "def", "del", "elif", "else", "except", "finally", "for", "from", "global",
    "if", "import", "in", "is", "lambda", "nonlocal", "not", "or", "pass", "raise", "return",
    "try", "while", "with", "yield"]

/-- Words that are keywords in some places only. -/
def softKeywords : List String := [
    "_", "case", "match"]

/-- Names that are defined in every module. -/
def predefined : List String := [
    "ArithmeticError", "AssertionError", "AttributeError", "BaseException",
    "BaseExceptionGroup", "BlockingIOError", "BrokenPipeError", "BufferError", "BytesWarning",
    "ChildProcessError", "ConnectionAbortedError", "ConnectionError", "ConnectionRefusedError",
    "ConnectionResetError", "DeprecationWarning", "EOFError", "Ellipsis", "EncodingWarning",
    "EnvironmentError", "Exception", "ExceptionGroup", "False", "FileExistsError",
    "FileNotFoundError", "FloatingPointError", "FutureWarning", "GeneratorExit", "IOError",
    "ImportError", "ImportWarning", "IndentationError", "IndexError", "InterruptedError",
    "IsADirectoryError", "KeyError", "KeyboardInterrupt", "LookupError", "MemoryError",
    "ModuleNotFoundError", "NameError", "None", "NotADirectoryError", "NotImplemented",
    "NotImplementedError", "OSError", "OverflowError", "PendingDeprecationWarning",
    "PermissionError", "ProcessLookupError", "RecursionError", "ReferenceError",
    "ResourceWarning", "RuntimeError", "RuntimeWarning", "StopAsyncIteration", "StopIteration",
    "SyntaxError", "SyntaxWarning", "SystemError", "SystemExit", "TabError", "TimeoutError",
    "True", "TypeError", "UnboundLocalError", "UnicodeDecodeError", "UnicodeEncodeError",
    "UnicodeError", "UnicodeTranslateError", "UnicodeWarning", "UserWarning", "ValueError",
    "Warning", "ZeroDivisionError", "abs", "aiter", "all", "anext", "any", "ascii", "bin",
    "bool", "breakpoint", "bytearray", "bytes", "callable", "chr", "classmethod", "compile",
    "complex", "copyright", "credits", "delattr", "dict", "dir", "divmod", "enumerate", "eval",
    "exec", "exit", "filter", "float", "format", "frozenset", "getattr", "globals", "hasattr",
    "hash", "help", "hex", "id", "input", "int", "isinstance", "issubclass", "iter", "len",
    "license", "list", "locals", "map", "max", "memoryview", "min", "next", "object", "oct",
    "open", "ord", "pow", "print", "property", "quit", "range", "repr", "reversed", "round",
    "set", "setattr", "slice", "sorted", "staticmethod", "str", "sum", "super", "tuple", "type",
    "vars", "zip"]

/-- Names that the generated module imports or defines at its top level. -/
def moduleNames : List String := [
    "Any", "ApiRequest", "Awaitable", "CallNext", "Callable", "Client", "HttpxTransport",
    "Iterable", "JsonResponseHook", "Literal", "Middleware", "NotRequired", "Protocol",
    "RequestError", "ResponseHandler", "Transport", "TypeAlias", "TypedDict", "annotations",
    "dataclass", "field", "httpx", "inspect", "json", "logger", "logging", "quote", "replace",
    "urlencode"]

/-- What no class, alias or method may be called. -/
def reserved : List String := keywords ++ softKeywords ++ predefined ++ moduleNames

/-- What no method of a client class may be called. -/
def reservedForMethods : List String := reserved ++ ["client", "__init__"]

/-- What no argument of a method may be called: its body uses these names itself. -/
def reservedForArguments : List String :=
  keywords ++ softKeywords ++ moduleNames ++ ["self", "request", "response", "handle"]

end ApiClient.Name
