import TraceLayout.Catalogue.Declaration

/-! The events that are declared when no other catalogue is given. Event numbers are fields of a
bundle entry, and field numbers are fields of the event's own message. -/
namespace TraceLayout.Catalogue

private def declare (group name : String) (number : UInt32)
    (fields : List (String × UInt32 × ProtoType)) : DeclaredEvent :=
  ⟨name, group, number, fields.map fun (name, number, type) => ⟨name, number, type⟩⟩

private def wakeupFields : List (String × UInt32 × ProtoType) :=
  [("comm", 1, .string), ("pid", 2, .int32), ("prio", 3, .int32), ("success", 4, .int32),
   ("target_cpu", 5, .int32)]

private def clockFields : List (String × UInt32 × ProtoType) :=
  [("name", 1, .string), ("state", 2, .uint64), ("cpu_id", 3, .uint64)]

def builtin : List DeclaredEvent :=
  [declare "ftrace" "print" 3 [("ip", 1, .uint64), ("buf", 2, .string)],
   declare "sched" "sched_switch" 4
    [("prev_comm", 1, .string), ("prev_pid", 2, .int32), ("prev_prio", 3, .int32),
     ("prev_state", 4, .int64), ("next_comm", 5, .string), ("next_pid", 6, .int32),
     ("next_prio", 7, .int32)],
   declare "power" "cpu_frequency" 11 [("state", 1, .uint32), ("cpu_id", 2, .uint32)],
   declare "power" "cpu_frequency_limits" 12
    [("min_freq", 1, .uint32), ("max_freq", 2, .uint32), ("cpu_id", 3, .uint32)],
   declare "power" "cpu_idle" 13 [("state", 1, .uint32), ("cpu_id", 2, .uint32)],
   declare "power" "clock_enable" 14 clockFields,
   declare "power" "clock_disable" 15 clockFields,
   declare "power" "clock_set_rate" 16 clockFields,
   declare "sched" "sched_wakeup" 17 wakeupFields,
   declare "sched" "sched_blocked_reason" 18
    [("pid", 1, .int32), ("caller", 2, .uint64), ("io_wait", 3, .uint32)],
   declare "sched" "sched_cpu_hotplug" 19
    [("affected_cpu", 1, .int32), ("error", 2, .int32), ("status", 3, .int32)],
   declare "sched" "sched_waking" 20 wakeupFields,
   declare "ipi" "ipi_entry" 21 [("reason", 1, .string)],
   declare "ipi" "ipi_exit" 22 [("reason", 1, .string)],
   declare "ipi" "ipi_raise" 23 [("reason", 2, .string)],
   declare "irq" "softirq_entry" 24 [("vec", 1, .uint32)],
   declare "irq" "softirq_exit" 25 [("vec", 1, .uint32)],
   declare "irq" "softirq_raise" 26 [("vec", 1, .uint32)]]

end TraceLayout.Catalogue
