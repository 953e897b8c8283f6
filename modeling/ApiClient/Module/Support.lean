/-!
# Support code

The code that every generated module calls into: the request, the client with its chain of
middleware, the default transport and the error of a failed request. It is pasted into the module
on demand, and imported by it otherwise.
-/

namespace ApiClient.Module

/-- The names that a module imports from the support code. -/
def supportNames : List String :=
  ["ApiRequest", "Client", "HttpxTransport", "Middleware", "RequestError"]

/-- The names that the support code binds at the top level of the module it is pasted into. -/
def supportBindings : List String := [
    "inspect", "json", "logging", "dataclass", "field", "replace", "Any", "Awaitable",
    "Callable", "Iterable", "Protocol", "quote", "urlencode", "httpx", "logger", "_URI_SAFE",
    "_REDACTED_HEADERS", "_stringify", "ApiRequest", "CallNext", "Transport", "ResponseHandler",
    "JsonResponseHook", "Middleware", "RequestError", "HttpxTransport", "Client"]

/-- The lines of the support code. -/
def supportLines : List String := [
    "import inspect",
    "import json",
    "import logging",
    "from dataclasses import dataclass, field, replace",
    "from typing import Any, Awaitable, Callable, Iterable, Protocol",
    "from urllib.parse import quote, urlencode",
    "",
    "import httpx",
    "",
    "logger = logging.getLogger(__name__)",
    "",
    "# encodeURIComponent leaves these unescaped",
    "_URI_SAFE = \"!~*'()\"",
    "",
    "_REDACTED_HEADERS = frozenset(\x7b\"authorization\", \"cookie\", \"proxy-authorization\", \"x-api-key\"\x7d)",
    "",
    "",
    "def _stringify(value: Any) -> str:",
    "    if isinstance(value, bool):",
    "        return \"true\" if value else \"false\"",
    "    if isinstance(value, (list, tuple)):",
    "        return \",\".join(_stringify(item) for item in value)",
    "    if value is None:",
    "        return \"\"",
    "    return str(value)",
    "",
    "",
    "@dataclass",
    "class ApiRequest:",
    "    \"\"\"One outgoing call, built fresh by every generated method.\"\"\"",
    "",
    "    pathname: str",
    "    method: str",
    "    search_params: list[tuple[str, str]] = field(default_factory=list)",
    "    headers: dict[str, str] = field(default_factory=dict)",
    "    body: Any = None",
    "    extensions: dict[str, Any] = field(default_factory=dict)",
    "",
    "    def set_path_param(self, name: str, value: Any) -> None:",
    "        self.pathname = self.pathname.replace(",
    "            \"\x7b\" + name + \"\x7d\", quote(_stringify(value), safe=_URI_SAFE)",
    "        )",
    "",
    "    def add_search_param(self, name: str, value: Any) -> None:",
    "        \"\"\"Append *value* under *name*; a list appends once per item.\"\"\"",
    "        if isinstance(value, (list, tuple)):",
    "            for item in value:",
    "                self.search_params.append((name, _stringify(item)))",
    "        else:",
    "            self.search_params.append((name, _stringify(value)))",
    "",
    "    def set_header(self, name: str, value: Any) -> None:",
    "        self.headers[name] = _stringify(value)",
    "",
    "    def header(self, name: str) -> str | None:",
    "        \"\"\"Case-insensitive header lookup.\"\"\"",
    "        lowered = name.lower()",
    "        for key, value in self.headers.items():",
    "            if key.lower() == lowered:",
    "                return value",
    "        return None",
    "",
    "    def remove_header(self, name: str) -> None:",
    "        lowered = name.lower()",
    "        for key in [k for k in self.headers if k.lower() == lowered]:",
    "            del self.headers[key]",
    "",
    "    def scrubbed(self) -> ApiRequest:",
    "        \"\"\"Copy without transport extensions and with credential headers redacted.\"\"\"",
    "        headers = \x7b",
    "            key: \"[redacted]\" if key.lower() in _REDACTED_HEADERS else value",
    "            for key, value in self.headers.items()",
    "        \x7d",
    "        return replace(",
    "            self,",
    "            search_params=list(self.search_params),",
    "            headers=headers,",
    "            extensions=\x7b\x7d,",
    "        )",
    "",
    "",
    "CallNext = Callable[[ApiRequest], Awaitable[httpx.Response]]",
    "Transport = Callable[[str, ApiRequest], Awaitable[httpx.Response]]",
    "ResponseHandler = Callable[[httpx.Response], Any]",
    "JsonResponseHook = Callable[[Any], Any]",
    "",
    "",
    "class Middleware(Protocol):",
    "    \"\"\"Middleware sees every request before the transport does.",
    "",
    "    It may change the request, answer it itself, or pass it on with",
    "    ``await call_next(request)``. A plain ``async def`` with the same",
    "    arguments works as well.",
    "    \"\"\"",
    "",
    "    async def handle(self, request: ApiRequest, call_next: CallNext) -> httpx.Response:",
    "        ...",
    "",
    "",
    "class RequestError(Exception):",
    "    \"\"\"Raised by generated methods for a response with an error status.",
    "",
    "    ``request`` is a scrubbed copy (see :meth:`ApiRequest.scrubbed`) so the",
    "    error can be logged without leaking credentials.",
    "    \"\"\"",
    "",
    "    def __init__(self, request: ApiRequest, response: httpx.Response) -> None:",
    "        self.request = request.scrubbed()",
    "        self.response = response",
    "        self.status_code = response.status_code",
    "        self.reason_phrase = response.reason_phrase",
    "        super().__init__(",
    "            f\"\x7bself.status_code\x7d \x7bself.reason_phrase\x7d (\x7brequest.method\x7d \x7brequest.pathname\x7d)\"",
    "        )",
    "",
    "    async def read(self) -> bytes:",
    "        return await self.response.aread()",
    "",
    "",
    "class HttpxTransport:",
    "    \"\"\"Default transport, sending requests with an :class:`httpx.AsyncClient`.",
    "",
    "    Args:",
    "        client: Client to send with. When omitted the transport creates one",
    "            and closes it in :meth:`aclose`.",
    "    \"\"\"",
    "",
    "    def __init__(self, client: httpx.AsyncClient | None = None) -> None:",
    "        self._owns_client = client is None",
    "        self._client = client if client is not None else httpx.AsyncClient()",
    "",
    "    async def __call__(self, url: str, request: ApiRequest) -> httpx.Response:",
    "        headers = dict(request.headers)",
    "        kwargs: dict[str, Any] = \x7b\x7d",
    "        body = request.body",
    "        content_type = (request.header(\"Content-Type\") or \"\").lower()",
    "",
    "        if isinstance(body, dict):",
    "            if content_type.startswith(\"multipart/\"):",
    "                kwargs[\"files\"] = \x7b",
    "                    k: v for k, v in body.items() if isinstance(v, (bytes, tuple)) or hasattr(v, \"read\")",
    "                \x7d",
    "                kwargs[\"data\"] = \x7bk: v for k, v in body.items() if k not in kwargs[\"files\"]\x7d",
    "                if \"boundary=\" not in content_type:",
    "                    # httpx writes its own header with the boundary",
    "                    headers = \x7bk: v for k, v in headers.items() if k.lower() != \"content-type\"\x7d",
    "            elif content_type.startswith(\"application/x-www-form-urlencoded\"):",
    "                kwargs[\"data\"] = body",
    "            else:",
    "                raise TypeError(",
    "                    f\"dict body needs a form Content-Type, got \x7bcontent_type or 'none'!r\x7d; encode it first\"",
    "                )",
    "        elif body is not None:",
    "            kwargs[\"content\"] = body",
    "",
    "        return await self._client.request(",
    "            request.method,",
    "            url,",
    "            headers=headers,",
    "            extensions=request.extensions or None,",
    "            **kwargs,",
    "        )",
    "",
    "    async def aclose(self) -> None:",
    "        if self._owns_client:",
    "            await self._client.aclose()",
    "",
    "    async def __aenter__(self) -> HttpxTransport:",
    "        return self",
    "",
    "    async def __aexit__(self, *args: object) -> None:",
    "        await self.aclose()",
    "",
    "",
    "class Client:",
    "    \"\"\"Executes :class:`ApiRequest` values through middleware and a transport.",
    "",
    "    Args:",
    "        base_path: Prefix for every request pathname.",
    "        transport: ``async (url, request) -> httpx.Response``. Defaults to an",
    "            :class:`HttpxTransport` owned by this client.",
    "        middlewares: Run in the given order on the way out and in reverse",
    "            order on the way back.",
    "        json_response_hook: Applied to every decoded JSON body; may be sync or",
    "            async. Defaults to returning the body unchanged.",
    "    \"\"\"",
    "",
    "    def __init__(",
    "        self,",
    "        base_path: str = \"\",",
    "        transport: Transport | None = None,",
    "        middlewares: Iterable[Middleware | Callable[..., Awaitable[httpx.Response]]] = (),",
    "        json_response_hook: JsonResponseHook | None = None,",
    "    ) -> None:",
    "        self.base_path = base_path.rstrip(\"/\")",
    "        self._owns_transport = transport is None",
    "        self.transport: Transport = transport if transport is not None else HttpxTransport()",
    "        self.middlewares = tuple(middlewares)",
    "        self.json_response_hook = json_response_hook",
    "",
    "    def url_for(self, request: ApiRequest) -> str:",
    "        url = self.base_path + request.pathname",
    "        if request.search_params:",
    "            url += \"?\" + urlencode(request.search_params, quote_via=quote, safe=_URI_SAFE)",
    "        return url",
    "",
    "    async def fetch(self, request: ApiRequest, response_handler: ResponseHandler | None = None) -> Any:",
    "        \"\"\"Send *request* and return what *response_handler* makes of the response.",
    "",
    "        Without a handler the :class:`httpx.Response` itself is returned. The URL",
    "        is built after the last middleware, so changes a middleware makes to",
    "        ``pathname`` or ``search_params`` are what gets sent.",
    "        \"\"\"",
    "",
    "        async def dispatch(index: int, current: ApiRequest) -> httpx.Response:",
    "            if index < len(self.middlewares):",
    "                middleware = self.middlewares[index]",
    "                handle = getattr(middleware, \"handle\", middleware)",
    "",
    "                async def call_next(next_request: ApiRequest) -> httpx.Response:",
    "                    return await dispatch(index + 1, next_request)",
    "",
    "                return await handle(current, call_next)",
    "",
    "            url = self.url_for(current)",
    "            logger.debug(\"%s %s\", current.method, url)",
    "            return await self.transport(url, current)",
    "",
    "        response = await dispatch(0, request)",
    "        logger.debug(\"%s %s -> %s\", request.method, request.pathname, response.status_code)",
    "",
    "        if response_handler is None:",
    "            return response",
    "        result = response_handler(response)",
    "        if inspect.isawaitable(result):",
    "            result = await result",
    "        return result",
    "",
    "    async def decode_json(self, response: httpx.Response) -> Any:",
    "        \"\"\"Decode a JSON body and pass it through the response hook.\"\"\"",
    "        data = json.loads(response.content) if response.content else None",
    "        if self.json_response_hook is None:",
    "            return data",
    "        result = self.json_response_hook(data)",
    "        if inspect.isawaitable(result):",
    "            result = await result",
    "        return result",
    "",
    "    async def aclose(self) -> None:",
    "        if self._owns_transport:",
    "            close = getattr(self.transport, \"aclose\", None)",
    "            if close is not None:",
    "                await close()",
    "",
    "    async def __aenter__(self) -> Client:",
    "        return self",
    "",
    "    async def __aexit__(self, *args: object) -> None:",
    "        await self.aclose()"]

/-- The support code, each of its lines ended. -/
def supportText : String := String.join (supportLines.map (· ++ "\n"))

end ApiClient.Module
