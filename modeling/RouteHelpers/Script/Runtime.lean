/-!
Text of the code that every emitted module carries with it, as lines.

`routeBuilder` and `configure` serve the simple variant: they evaluate the trees that helpers are
made with. `richHelpers` and `formHelper` serve the rich variant, which substitutes into patterns.
`wayfinder` is the module that the files of resources import.
-/

namespace RouteHelpers.Script.Runtime

/-! ### Classic modules -/

/-- The class that builds URLs from trees, and its helper functions. -/
def routeBuilder : List String := [
  "/**",
  " * Builds paths from serialized route trees.",
  " *",
  " * Tree nodes: \"literal\", [\"param\", name], [\"glob\", name], [\"optional\", [...nodes]].",
  " */",
  "class RouteBuilder \x7b",
  "  constructor(options = \x7b\x7d) \x7b",
  "    this.defaultUrlOptions = options.defaultUrlOptions || \x7b\x7d;",
  "    this.trailingSlash = options.trailingSlash === true;",
  "  \x7d",
  "",
  "  configure(options = \x7b\x7d) \x7b",
  "    if (options.defaultUrlOptions !== undefined) this.defaultUrlOptions = options.defaultUrlOptions;",
  "    if (options.trailingSlash !== undefined) this.trailingSlash = options.trailingSlash;",
  "  \x7d",
  "",
  "  route(paramDefs, spec, absolute = false) \x7b",
  "    const builder = this;",
  "    const helper = function (...args) \x7b",
  "      return builder.build(paramDefs, spec, args, absolute);",
  "    \x7d;",
  "    helper.requiredParams = () => Object.keys(paramDefs).filter((key) => paramDefs[key].required === true);",
  "    helper.toString = () => builder.specToString(spec);",
  "    return helper;",
  "  \x7d",
  "",
  "  build(paramDefs, spec, args, absolute) \x7b",
  "    const \x7b params, options \x7d = this.extractArgs(paramDefs, args);",
  "    const missing = Object.keys(paramDefs).filter((key) => paramDefs[key].required && params[key] == null);",
  "    if (missing.length > 0) \x7b",
  "      throw new Error(`Missing required parameter(s): $\x7bmissing.join(', ')\x7d`);",
  "    \x7d",
  "",
  "    let path = spec.map((node) => this.evaluate(node, params)).join('');",
  "    if (path === '') path = '/';",
  "    const trailingSlash = options.trailing_slash !== undefined ? options.trailing_slash : this.trailingSlash;",
  "    if (trailingSlash) \x7b",
  "      if (!path.endsWith('/')) path += '/';",
  "    \x7d else if (path.length > 1) \x7b",
  "      path = path.replace(/\\/+$/, '') || '/';",
  "    \x7d",
  "",
  "    const query = this.buildQueryString(paramDefs, options);",
  "    if (query) path += '?' + query;",
  "    if (options.anchor) path += '#' + encodeURIComponent(options.anchor);",
  "    return absolute ? this.origin(options) + path : path;",
  "  \x7d",
  "",
  "  // Positional required params, then an optional trailing options object.",
  "  // A single object argument may carry params and options together.",
  "  extractArgs(paramDefs, args) \x7b",
  "    const required = Object.keys(paramDefs).filter((key) => paramDefs[key].required);",
  "    const params = \x7b\x7d;",
  "    let options = \x7b\x7d;",
  "    let positional = args;",
  "",
  "    const last = args[args.length - 1];",
  "    if (isPlainObject(last) && (args.length > required.length || args.length === 1)) \x7b",
  "      options = last;",
  "      positional = args.slice(0, -1);",
  "    \x7d",
  "",
  "    required.forEach((key, index) => \x7b",
  "      if (index < positional.length) params[key] = toParam(positional[index]);",
  "    \x7d);",
  "    Object.keys(paramDefs).forEach((key) => \x7b",
  "      if (options[key] !== undefined) params[key] = toParam(options[key]);",
  "      if (params[key] === undefined && paramDefs[key].default !== undefined) \x7b",
  "        params[key] = paramDefs[key].default;",
  "      \x7d",
  "    \x7d);",
  "    return \x7b params, options \x7d;",
  "  \x7d",
  "",
  "  evaluate(node, params) \x7b",
  "    if (typeof node === 'string') return node;",
  "    const [type, value] = node;",
  "    switch (type) \x7b",
  "      case 'param':",
  "      case 'glob': \x7b",
  "        const bound = params[value];",
  "        if (bound == null) return '';",
  "        return type === 'glob' ? String(bound) : encodeURIComponent(String(bound));",
  "      \x7d",
  "      case 'optional': \x7b",
  "        const complete = value.every((child) => !Array.isArray(child) || child[0] !== 'param' || params[child[1]] != null);",
  "        return complete ? value.map((child) => this.evaluate(child, params)).join('') : '';",
  "      \x7d",
  "      default:",
  "        return '';",
  "    \x7d",
  "  \x7d",
  "",
  "  buildQueryString(paramDefs, options) \x7b",
  "    const pairs = [];",
  "    Object.keys(options).forEach((key) => \x7b",
  "      if (paramDefs[key] !== undefined || RESERVED_OPTIONS.includes(key)) return;",
  "      const value = options[key];",
  "      const values = Array.isArray(value) ? value : [value];",
  "      values.forEach((item) => \x7b",
  "        if (item != null) pairs.push(encodeURIComponent(key) + '=' + encodeURIComponent(String(item)));",
  "      \x7d);",
  "    \x7d);",
  "    return pairs.join('&');",
  "  \x7d",
  "",
  "  origin(options) \x7b",
  "    const urlOptions = Object.assign(\x7b\x7d, this.defaultUrlOptions, pick(options, ['scheme', 'host', 'port']));",
  "    const scheme = urlOptions.scheme || 'http';",
  "    const host = urlOptions.host || 'localhost';",
  "    const port = urlOptions.port;",
  "    const defaultPort = (scheme === 'http' && Number(port) === 80) || (scheme === 'https' && Number(port) === 443);",
  "    return `$\x7bscheme\x7d://$\x7bhost\x7d` + (port && !defaultPort ? `:$\x7bport\x7d` : '');",
  "  \x7d",
  "",
  "  specToString(spec) \x7b",
  "    return spec.map((node) => \x7b",
  "      if (typeof node === 'string') return node;",
  "      const [type, value] = node;",
  "      if (type === 'param') return `:$\x7bvalue\x7d`;",
  "      if (type === 'glob') return `*$\x7bvalue\x7d`;",
  "      if (type === 'optional') return `($\x7bthis.specToString(value)\x7d)`;",
  "      return '';",
  "    \x7d).join('');",
  "  \x7d",
  "\x7d",
  "",
  "const RESERVED_OPTIONS = ['anchor', 'trailing_slash', 'scheme', 'host', 'port'];",
  "",
  "function isPlainObject(value) \x7b",
  "  return typeof value === 'object' && value !== null && !Array.isArray(value) &&",
  "    Object.getPrototypeOf(value) === Object.prototype && !('id' in value && Object.keys(value).length === 1);",
  "\x7d",
  "",
  "function toParam(value) \x7b",
  "  if (typeof value === 'object' && value !== null && 'id' in value) return value.id;",
  "  return value;",
  "\x7d",
  "",
  "function pick(source, keys) \x7b",
  "  const result = \x7b\x7d;",
  "  keys.forEach((key) => \x7b",
  "    if (source[key] !== undefined) result[key] = source[key];",
  "  \x7d);",
  "  return result;",
  "\x7d"]

/-- The exported function that changes the options of the builder. -/
def configure : List String := [
  "/**",
  " * Update runtime options (defaultUrlOptions, trailingSlash).",
  " */",
  "function configure(options) \x7b",
  "  _builder.configure(options);",
  "\x7d"]

/-- The functions that substitute parameters into patterns. -/
def richHelpers : List String := [
  "/**",
  " * Encode a query object; array values repeat the key.",
  " */",
  "function _buildQueryString(query) \x7b",
  "  const parts = [];",
  "  for (const [key, value] of Object.entries(query)) \x7b",
  "    const values = Array.isArray(value) ? value : [value];",
  "    for (const item of values) \x7b",
  "      if (item !== null && item !== undefined) \x7b",
  "        parts.push(encodeURIComponent(key) + '=' + encodeURIComponent(String(item)));",
  "      \x7d",
  "    \x7d",
  "  \x7d",
  "  return parts.join('&');",
  "\x7d",
  "",
  "/**",
  " * Build a URL by substituting params into a route pattern.",
  " * Optional groups such as (.:format) are kept only when their params are given;",
  " * optional params are read from `params` first, then from `options`.",
  " */",
  "function _buildUrl(pattern, params = \x7b\x7d, options = \x7b\x7d) \x7b",
  "  params = params || \x7b\x7d;",
  "  options = options || \x7b\x7d;",
  "",
  "  // Replace :param placeholders (and *glob placeholders, unencoded)",
  "  let url = pattern.replace(/([:*])(\\w+)/g, (match, kind, name) => \x7b",
  "    let value = params[name] != null ? params[name] : options[name];",
  "    if (value == null) return match;",
  "    if (typeof value === 'object' && 'id' in value) value = value.id;",
  "    return kind === '*' ? String(value) : encodeURIComponent(String(value));",
  "  \x7d);",
  "",
  "  let previous;",
  "  do \x7b",
  "    previous = url;",
  "    url = url.replace(/\\(([^()]*)\\)/g, (match, inner) => (/[:*]\\w/.test(inner) ? '' : inner));",
  "  \x7d while (url !== previous);",
  "",
  "  const missing = url.match(/[:*]\\w+/g);",
  "  if (missing) \x7b",
  "    throw new Error('Missing required parameter(s): ' + missing.map((token) => token.slice(1)).join(', '));",
  "  \x7d",
  "",
  "  // Handle query parameters",
  "  if (options.query) \x7b",
  "    const queryString = _buildQueryString(options.query);",
  "    if (queryString) url += (url.includes('?') ? '&' : '?') + queryString;",
  "  \x7d else if (options.mergeQuery && typeof window !== 'undefined') \x7b",
  "    const current = new URLSearchParams(window.location.search);",
  "    for (const [key, value] of Object.entries(options.mergeQuery)) \x7b",
  "      current.delete(key);",
  "      const values = Array.isArray(value) ? value : [value];",
  "      for (const item of values) \x7b",
  "        if (item !== null && item !== undefined) current.append(key, String(item));",
  "      \x7d",
  "    \x7d",
  "    const queryString = current.toString();",
  "    if (queryString) url += (url.includes('?') ? '&' : '?') + queryString;",
  "  \x7d",
  "",
  "  // Handle anchor",
  "  if (options.anchor) url += '#' + options.anchor;",
  "",
  "  return url;",
  "\x7d"]

/-- The function that builds the actions of forms. -/
def formHelper : List String := [
  "/**",
  " * Build a form action URL.",
  " * Method spoofing for non-GET/POST methods: HTML forms can only submit GET or",
  " * POST, so other verbs are sent as POST with _method=VERB in the query string.",
  " */",
  "function _buildFormAction(pattern, params = \x7b\x7d, method = 'post', options = \x7b\x7d) \x7b",
  "  const verb = String(method).toLowerCase();",
  "  if (verb === 'get' || verb === 'post') \x7b",
  "    return _buildUrl(pattern, params, options);",
  "  \x7d",
  "  const query = Object.assign(\x7b\x7d, options && options.query, \x7b _method: verb.toUpperCase() \x7d);",
  "  return _buildUrl(pattern, params, Object.assign(\x7b\x7d, options, \x7b query \x7d));",
  "\x7d"]

/-! ### The module of resource files -/

/-- The types at the start of the module. -/
def wayfinderHeader : List String := [
  "/**",
  " * Route runtime for per-resource route modules.",
  " * Generated by routes-js. Do not edit manually.",
  " */",
  "",
  "export type Method = 'get' | 'post' | 'put' | 'patch' | 'delete' | 'head' | 'options';",
  "",
  "export interface Route<M extends Method = Method> \x7b",
  "  readonly url: string;",
  "  readonly method: M;",
  "\x7d",
  "",
  "export interface RouteOptions \x7b",
  "  query?: Record<string, string | number | boolean | null | undefined | Array<string | number>>;",
  "  anchor?: string;",
  "\x7d",
  "",
  "export interface FormAttrs \x7b",
  "  readonly action: string;",
  "  readonly method: 'get' | 'post';",
  "\x7d",
  "",
  "/** A route parameter: a plain value or a record exposing `id`. */",
  "export type Param = string | number | \x7b id: string | number \x7d;",
  "",
  "type Args<P> = P | Param | undefined;",
  "type Builder<P, R> = (params?: Args<P>, options?: RouteOptions) => R;"]

/-- The type of route functions, up to the place of its form member. -/
def routeFunctionStart : List String := [
  "",
  "export type RouteFunction<P, M extends Method> = Builder<P, Route<M>> & \x7b",
  "  url: Builder<P, string>;",
  "  get: Builder<P, Route<'get'>>;",
  "  post: Builder<P, Route<'post'>>;",
  "  patch: Builder<P, Route<'patch'>>;",
  "  put: Builder<P, Route<'put'>>;",
  "  delete: Builder<P, Route<'delete'>>;",
  "  head: Builder<P, Route<'head'>>;"]

/-- The rest of the type of route functions. -/
def routeFunctionEnd : List String := [
  "  readonly pattern: string;",
  "  readonly defaultMethod: M;",
  "\x7d;"]

/-- The type of form functions. -/
def formFunctionType : List String := [
  "",
  "export type FormFunction<P> = Builder<P, FormAttrs> & \x7b",
  "  patch: Builder<P, FormAttrs>;",
  "  put: Builder<P, FormAttrs>;",
  "  delete: Builder<P, FormAttrs>;",
  "\x7d;"]

/-- The function that makes route functions, up to the place of its form builder. -/
def factoryStart : List String := [
  "",
  "export function route<P extends Record<string, Param | undefined> = Record<string, never>, M extends Method = Method>(",
  "  pattern: string,",
  "  defaultMethod: M,",
  "): RouteFunction<P, M> \x7b",
  "  const buildUrl = (params?: Args<P>, options?: RouteOptions): string => \x7b",
  "    const values = normalizeParams(pattern, params);",
  "    let url = pattern.replace(/([:*])(\\w+)/g, (match: string, kind: string, name: string) => \x7b",
  "      const value = values[name];",
  "      if (value == null) return match;",
  "      return kind === '*' ? String(value) : encodeURIComponent(String(value));",
  "    \x7d);",
  "    url = dropOptionalGroups(url);",
  "",
  "    const missing = url.match(/[:*]\\w+/g);",
  "    if (missing) \x7b",
  "      throw new Error(`Missing required parameter(s): $\x7bmissing.map((token) => token.slice(1)).join(', ')\x7d`);",
  "    \x7d",
  "",
  "    if (options?.query) \x7b",
  "      const search = new URLSearchParams();",
  "      for (const [key, value] of Object.entries(options.query)) \x7b",
  "        if (value == null) continue;",
  "        if (Array.isArray(value)) \x7b",
  "          value.forEach((item) => search.append(key, String(item)));",
  "        \x7d else \x7b",
  "          search.set(key, String(value));",
  "        \x7d",
  "      \x7d",
  "      const qs = search.toString();",
  "      if (qs) url += '?' + qs;",
  "    \x7d",
  "    if (options?.anchor) url += '#' + options.anchor;",
  "    return url;",
  "  \x7d;",
  "",
  "  const withMethod = <V extends Method>(method: V): Builder<P, Route<V>> =>",
  "    (params, options) => (\x7b url: buildUrl(params, options), method \x7d);"]

/-- The function that makes route functions, up to the place of its form property. -/
def factoryMiddle : List String := [
  "  return Object.assign(withMethod(defaultMethod), \x7b",
  "    url: buildUrl,",
  "    get: withMethod('get'),",
  "    post: withMethod('post'),",
  "    patch: withMethod('patch'),",
  "    put: withMethod('put'),",
  "    delete: withMethod('delete'),",
  "    head: withMethod('head'),"]

/-- The rest of the function that makes route functions. -/
def factoryEnd : List String := [
  "    pattern,",
  "    defaultMethod,",
  "  \x7d);",
  "\x7d"]

/-- The form builder, with an empty line before and behind it. -/
def formBuilder : List String := [
  "",
  "  // Method spoofing: forms only submit GET/POST, other verbs travel as _method=VERB",
  "  const buildForm = (method: Method): Builder<P, FormAttrs> => (params, options) => \x7b",
  "    const spoof = method !== 'get' && method !== 'post';",
  "    const query = spoof ? \x7b ...options?.query, _method: method.toUpperCase() \x7d : options?.query;",
  "    return \x7b",
  "      action: buildUrl(params, \x7b ...options, query \x7d),",
  "      method: spoof ? 'post' : (method as 'get' | 'post'),",
  "    \x7d;",
  "  \x7d;",
  ""]

/-- The property that holds the form functions. -/
def formProperty : List String := [
  "    form: Object.assign(buildForm(defaultMethod), \x7b",
  "      patch: buildForm('patch'),",
  "      put: buildForm('put'),",
  "      delete: buildForm('delete'),",
  "    \x7d),"]

/-- The functions at the end of the module. -/
def wayfinderFunctions : List String := [
  "",
  "function paramNames(pattern: string): string[] \x7b",
  "  return (pattern.match(/[:*]\\w+/g) ?? []).map((token) => token.slice(1));",
  "\x7d",
  "",
  "function toValue(value: unknown): unknown \x7b",
  "  if (typeof value === 'object' && value !== null && 'id' in value) \x7b",
  "    return (value as \x7b id: unknown \x7d).id;",
  "  \x7d",
  "  return value;",
  "\x7d",
  "",
  "// Accepts a params object, a bare value, or a record with `id`",
  "// standing in for the first param.",
  "function normalizeParams(pattern: string, params: unknown): Record<string, unknown> \x7b",
  "  const names = paramNames(pattern);",
  "  if (params == null || names.length === 0) return \x7b\x7d;",
  "  if (typeof params !== 'object') return \x7b [names[0]]: params \x7d;",
  "",
  "  const obj = params as Record<string, unknown>;",
  "  const result: Record<string, unknown> = \x7b\x7d;",
  "  for (const name of names) \x7b",
  "    if (name in obj) result[name] = toValue(obj[name]);",
  "  \x7d",
  "  if (Object.keys(result).length === 0 && 'id' in obj) \x7b",
  "    result[names[0]] = obj.id;",
  "  \x7d",
  "  return result;",
  "\x7d",
  "",
  "function dropOptionalGroups(url: string): string \x7b",
  "  let previous: string;",
  "  do \x7b",
  "    previous = url;",
  "    url = url.replace(/\\(([^()]*)\\)/g, (_match: string, inner: string) => (/[:*]\\w/.test(inner) ? '' : inner));",
  "  \x7d while (url !== previous);",
  "  return url;",
  "\x7d"]

/-- The lines of the module that the files of resources import, with or without forms. -/
def wayfinder (withForms : Bool) : List String :=
  let forForms (lines : List String) : List String := if withForms then lines else []
  wayfinderHeader ++ routeFunctionStart ++ forForms ["  form: FormFunction<P>;"] ++
    routeFunctionEnd ++ forForms formFunctionType ++ factoryStart ++
    (if withForms then formBuilder else [""]) ++ factoryMiddle ++ forForms formProperty ++
    factoryEnd ++ wayfinderFunctions

end RouteHelpers.Script.Runtime
