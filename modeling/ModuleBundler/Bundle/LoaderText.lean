import ModuleBundler.Text.Lines

/-!
# The loader at the head of a bundle

A bundle begins with a function that is called with the module table and the id of the entry.  It
runs the factory of the entry, gives each factory its own `require`, and runs the factory of every
other module when it is first required.  `ModuleBundler.Loader` does the same with modules that
are step programs, and says what the text means.
-/

namespace ModuleBundler.Bundle

/-- The lines of the loader. -/
def loaderLines : List String :=
  ["(function (modules, entry) \x7b",
   "  var hasOwn = Object.prototype.hasOwnProperty;",
   "  // Exports of every module whose factory has returned.",
   "  var cache = \x7b\x7d;",
   "  // How many times each module has started instantiating.",
   "  var count = \x7b\x7d;",
   "",
   "  function load(id) \x7b",
   "    if (hasOwn.call(cache, id)) \x7b",
   "      return cache[id];",
   "    \x7d",
   "    if (!hasOwn.call(modules, id)) \x7b",
   "      throw new Error(\"Cannot find module '\" + id + \"'\");",
   "    \x7d",
   "    count[id] = (count[id] || 0) + 1;",
   "    var record = modules[id];",
   "",
   "    function require(specifier) \x7b",
   "      if (!hasOwn.call(record.importMap, specifier)) \x7b",
   "        throw new Error(\"Cannot find module '\" + specifier + \"' from '\" + id + \"'\");",
   "      \x7d",
   "      var target = record.importMap[specifier];",
   "      if (hasOwn.call(cache, target)) \x7b",
   "        return cache[target];",
   "      \x7d",
   "      // The target is further up the current load chain: loading it again would be its",
   "      // second attempt, so it gets an empty stand-in instead.",
   "      if (count[target] >= 1) \x7b",
   "        return \x7b\x7d;",
   "      \x7d",
   "      return load(target);",
   "    \x7d",
   "",
   "    var module = \x7b exports: \x7b\x7d \x7d;",
   "    record.factory(require, module, module.exports);",
   "    cache[id] = module.exports;",
   "    return module.exports;",
   "  \x7d",
   "",
   "  load(entry);",
   "\x7d)"]

/-- The loader, up to the bracket that opens its arguments. -/
def loaderText : String :=
  Text.joinLines loaderLines

end ModuleBundler.Bundle
