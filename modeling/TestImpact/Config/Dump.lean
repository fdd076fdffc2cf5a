import TestImpact.Config.Basic

/-!
# Dumping a configuration

The untyped value of a configuration, with all fields of all sections. Sections become mappings and
all other values stay what they are, paths among them: this is what a library that checks values is
to dump (`pydantic`, version 2.5 or later). Checking the dump gives the configuration back.
-/

namespace TestImpact

def LogOutput.dump (o : LogOutput) : Data :=
  .ofFields [("format", o.format.name), ("destination", o.destination),
    ("level", .ofOption (o.level.map LogLevel.name))]

def LoggingConfig.dump (c : LoggingConfig) : Data :=
  .ofFields [("level", c.level.name), ("outputs", .list (c.outputs.map LogOutput.dump))]

def ServerConfig.dump (c : ServerConfig) : Data :=
  .ofFields [("url", .ofOption c.url), ("project", .ofOption c.project), ("user", .ofOption c.user),
    ("access_token", .ofOption c.accessToken)]

def AgentConfig.dump (c : AgentConfig) : Data :=
  .ofFields [("mode", c.mode.name), ("url", .ofOption c.url), ("port", .int c.controlPort),
    ("jar", (c.jar.map .path).getD .null), ("includes", .ofTexts c.includes),
    ("excludes", .ofTexts c.excludes), ("dump_classes", .bool c.dumpClasses)]

def ExecutorConfig.dump (c : ExecutorConfig) : Data :=
  .ofFields [("java", c.java), ("main_class", c.mainClass),
    ("classpath", .list (c.classpath.map .path)), ("jvm_args", .ofTexts c.jvmArgs),
    ("env", .ofFields (c.env.map fun (name, value) => (name, .text value)))]

def ReportConfig.dump (c : ReportConfig) : Data :=
  .ofFields [("partition", c.partitionName), ("reports_subdir", c.reportsSubdir),
    ("artifact_subdir", c.artifactSubdir), ("dump_subdir", c.dumpSubdir)]

/-- All sections with all fields. -/
def Config.dump (c : Config) : Data :=
  .ofFields [("logging", c.logging.dump), ("server", c.server.dump), ("agent", c.agent.dump),
    ("executor", c.executor.dump), ("report", c.report.dump)]

end TestImpact
